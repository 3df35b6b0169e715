import ParameterDrift.Proofs.Contract.Bodies
import ParameterDrift.Proofs.Reconciliation.Verdicts
import ParameterDrift.Proofs.Service.Reports
/-! # What decides a finding

That a parameter is missing or that its type does not fit is decided by a parameter that an entry of
the contract resolves to. The parts of a body are no such parameters: they stand neither among the
entries nor among the components, so nothing about them is ever reported
(`ParameterDrift.Contract.bodiless_of_ofRaw`).
-/

namespace ParameterDrift

namespace Context

/-- A parameter that an entry resolves to decides a finding: nothing has its name, or it is the
first of the name of an implemented parameter whose type does not fit. -/
inductive Decides (context : Context) (implemented : List ImplementedParameter)
    (spec : List ContractParameter) (components : Components) (parameter : ContractParameter) :
    Finding → Prop
  | missing {entry : ContractParameter} {name : String} : entry ∈ spec →
      entry.resolve components = .ok parameter → parameter.name = some name →
      Text.lowerString (parameter.location.getD "") ∉ context.exempt →
      (∀ own ∈ implemented, own.name ≠ name) →
      Decides context implemented spec components parameter (context.missingFinding name)
  | mismatch {own : ImplementedParameter} {contractType : String} : own ∈ implemented →
      FirstDocumented components own.name spec parameter →
      TypeName.mismatch? parameter.schema own.declaredType = some contractType →
      Decides context implemented spec components parameter
        (context.mismatchFinding own contractType)

variable {context : Context} {implemented : List ImplementedParameter}
  {spec : List ContractParameter} {components : Components} {parameter : ContractParameter}
  {finding : Finding}

/-- What decides a finding is resolved from an entry. -/
theorem Decides.exists_resolve
    (decides : context.Decides implemented spec components parameter finding) :
    ∃ entry ∈ spec, entry.resolve components = .ok parameter := by
  cases decides with
  | missing member resolves => exact ⟨_, member, resolves⟩
  | mismatch _ first =>
    obtain ⟨before, entry, after, rfl, documents, _⟩ := first
    exact ⟨entry, List.mem_append_right before List.mem_cons_self, documents.1⟩

/-- A documented verdict is decided by an entry. -/
theorem exists_decides_of_judge {own : ImplementedParameter} (member : own ∈ implemented)
    (judged : context.judge spec components own = .ok (some finding))
    (documented : finding.kind ≠ .undefined) :
    ∃ parameter, context.Decides implemented spec components parameter finding := by
  unfold judge at judged
  cases searched : (search components own.name spec).found with
  | none =>
    rw [searched] at judged
    obtain ⟨_, made, same⟩ := Outcome.map_eq_ok_iff.mp judged
    cases same
    obtain ⟨path, _, rfl⟩ := Outcome.map_eq_ok_iff.mp made
    exact absurd rfl documented
  | some parameter =>
    rw [searched] at judged
    obtain ⟨contractType, fails, rfl⟩ := Option.map_eq_some_iff.mp (Except.ok.inj judged)
    exact ⟨parameter, .mismatch member (found_search_eq_some_iff.mp searched) fails⟩

/-- Every finding about a documented parameter is decided by one. -/
theorem exists_decides_of_reconcile {report : Report}
    (returned : context.reconcile implemented spec components = .ok report)
    (member : finding ∈ report.findings) (documented : finding.kind ≠ .undefined) :
    ∃ parameter, context.Decides implemented spec components parameter finding := by
  rw [findings_of_reconcile returned, List.mem_append, List.mem_filterMap, List.mem_filterMap]
    at member
  rcases member with ⟨own, ownMember, judged⟩ | ⟨entry, entryMember, missed⟩
  · exact exists_decides_of_judge ownMember (judge_of_verdict judged) documented
  · obtain ⟨parameter, name, resolves, named, required, absent, rfl⟩ :=
      missing_eq_some_iff.mp missed
    exact ⟨parameter, .missing entryMember resolves named required absent⟩

end Context

namespace Contract

/-- **A contract without the parts of bodies**, read from a document that may have some. -/
structure Bodiless (document : Raw) (contract : Contract) : Prop where
  parameters : ∀ operation ∈ contract.operations, ∀ entry ∈ operation.parameters, ¬ entry.IsBody
  components : ∀ component ∈ contract.components, ¬ component.2.IsBody
  /-- No entry leads to one. -/
  resolved : ∀ operation ∈ contract.operations, ∀ entry ∈ operation.parameters, ∀ parameter,
    entry.resolve contract.components = .ok parameter → ¬ parameter.IsBody
  /-- Whatever is missing or does not fit is decided by a parameter that is none. -/
  decided : ∀ (manifest : Manifest) (settings : Settings),
    ∀ finding ∈ (contract.validate manifest settings).findings,
      finding.kind = .missing ∨ finding.kind = .typeMismatch →
      ∃ resource ∈ manifest.resources, ∃ operation ∈ contract.operations,
        ∃ implemented parameter, resource.implemented = .ok implemented ∧
          (settings.context operation resource).Decides (implemented.map Prod.snd)
            operation.parameters contract.components parameter finding ∧ ¬ parameter.IsBody
  /-- Every other mapping in a list of parameters has its key among those of the operation. -/
  complete : ∀ place operation,
    (place, operation) ∈ (OperationPlace.ofDocument document).zip contract.operations →
    ∀ items, Raw.lookup "parameters" place.item = some (.list items) ∨
        Raw.lookup "parameters" place.entries = some (.list items) →
      ∀ fields, .mapping fields ∈ items → ¬ ContractParameter.WritesBody fields →
        ContractParameter.writtenKey fields ∈
          operation.parameters.map ContractParameter.mergeKey

/-- **Parts of a body never enter a contract.** -/
theorem bodiless_of_ofRaw {document : Raw} {contract : Contract}
    (read : ofRaw document = .ok contract) : Bodiless document contract := by
  constructor
  · exact fun operation member => not_isBody_of_mem read member
  · exact not_isBody_of_component read
  · intro operation member entry entryMember parameter resolves
    exact not_isBody_of_resolve read member entryMember resolves
  · intro manifest settings finding member kind
    obtain ⟨resource, among, operation, operationMember, implemented, report, readable, returned,
      inReport⟩ := exists_reconcile_of_mem member
    have documented : finding.kind ≠ .undefined := by
      intro undefined
      rw [undefined] at kind
      rcases kind with ⟨⟨⟩⟩ | ⟨⟨⟩⟩
    obtain ⟨parameter, decides⟩ :=
      Context.exists_decides_of_reconcile returned inReport documented
    obtain ⟨entry, entryMember, resolves⟩ := decides.exists_resolve
    exact ⟨resource, among, operation, operationMember, implemented, parameter, readable, decides,
      not_isBody_of_resolve read operationMember entryMember resolves⟩
  · intro place operation member items listed fields fieldsMember notBody
    have holds := List.forall₂_zip (forall₂_places_of_ofRaw read) member
    exact holds.writtenKey_mem listed fieldsMember notBody

/-- A parameter with a name, written in place. -/
def placedParameter (location name : String) : Raw :=
  .ofFields [("name", .text name), ("in", .text location), ("type", .text "string")]

/-- A document with parts of a body at every place: in the list of a path and in that of an
operation, among the components and at the top. A component that is one takes the place of a
parameter at the top. -/
def uploadsDocument : Raw :=
  .ofFields
    [("parameters", .ofFields
      [("limit", placedParameter "query" "limit"), ("page", placedParameter "query" "page"),
      ("file", placedParameter "formData" "file")]),
    ("components", .ofFields
      [("parameters", .ofFields [("limit", placedParameter "body" "limit")])]),
    ("paths", .ofFields [("/uploads", .ofFields
      [("parameters", .list [placedParameter "body" "pet", placedParameter "Body" "tag"]),
      ("post", .ofFields [("parameters", .list
        [placedParameter "formData" "file",
          .ofFields [("$ref", .text "#/parameters/limit")],
          .ofFields [("$ref", .text "#/parameters/file"), ("in", .text "query")],
          .ofFields [("$ref", .text "#/parameters/page")]])])])])]

/-- What is left of it. -/
def uploadsContract : Contract where
  operations :=
    [{ method := "post"
       path := "/uploads"
       parameters :=
        [{ name := some "tag", location := some "Body", schema := some { type := some "string" } },
          { ref := some "#/parameters/limit" }, { ref := some "#/parameters/file" },
          { ref := some "#/parameters/page" }] }]
  components :=
    [("page", { name := some "page", location := some "query",
                schema := some { type := some "string" } })]

/-- A resource that implements one of the parameters with another type. -/
def uploadsManifest : Manifest where
  resources :=
    [{ method := "post", path := "/uploads", declarations := [.required "page" "int" {}] }]

/-- The references to parts of a body lead nowhere, and what is reported is about the two other
parameters. -/
theorem bodiless_uploads :
    ofRaw uploadsDocument = .ok uploadsContract ∧
    Bodiless uploadsDocument uploadsContract ∧
    (uploadsContract.validate uploadsManifest {}).findings.map
      (fun finding => (finding.kind, finding.arguments)) =
        [(.typeMismatch, ["string", "int", "page", "post", "/uploads"]),
        (.missing, ["tag", "post", "/uploads"])] := by
  have read : ofRaw uploadsDocument = .ok uploadsContract := by decide +kernel
  exact ⟨read, bodiless_of_ofRaw read, by decide +kernel⟩

end Contract

end ParameterDrift
