import ParameterDrift.Proofs.Service.Blocks
/-! # Validations with further exemptions

The exempt locations of the settings are lowered by the validation and once more by every context
that it makes, and count as the set of their lower-case forms. With further locations exempt a
validation finds what it found before, in the same order, less the parameters of these locations
that it reported as missing (`ParameterDrift.Contract.outcome_exempting`). Settings whose locations
differ in letter case, order and repetitions are the same to it.
-/

namespace ParameterDrift

variable {contract : Contract} {settings : Settings} {operation : Operation} {resource : Resource}
  {exempt : List String} {findings block : List Finding}

/-- The exempt locations are those that are given, in lower case. -/
theorem mem_exemptLocations_iff {location : String} :
    location ∈ exemptLocations exempt ↔ location ∈ exempt.map Text.lowerString := by
  rw [mem_exemptLocations, List.mem_map]

/-- A resource is reconciled with the locations that are exempt, in lower case. -/
theorem Settings.mem_exempt_context {location : String} :
    location ∈ (settings.context operation resource).exempt ↔
      location ∈ settings.exempt.map Text.lowerString := by
  rw [Settings.context_eq, mem_exemptLocations_iff]

namespace Contract

/-- **What a resource brings, with what it is about.** Nothing when the contract has no operation for
it, and else the findings of its reconciliation with the first operation. -/
inductive Attributes (contract : Contract) (settings : Settings) (resource : Resource) :
    List Attributed → Prop
  | skipped : contract.operation? resource.method resource.path = none →
      Attributes contract settings resource []
  | reconciled {operation : Operation} {implemented : List (String × ImplementedParameter)}
      {told : List Attributed} :
      contract.operation? resource.method resource.path = some operation →
      resource.implemented = .ok implemented →
      (settings.context operation resource).Attributes (implemented.map Prod.snd)
        operation.parameters contract.components told →
      Attributes contract settings resource told

/-- What is about a parameter of some location says that it is missing. -/
theorem Attributes.kind_of_isExempt {told : List Attributed}
    (attributes : contract.Attributes settings resource told) {one : Attributed}
    (member : one ∈ told) (isExempt : one.isExempt exempt = true) : one.finding.kind = .missing := by
  cases attributes with
  | skipped => cases member
  | reconciled _ _ attributes => exact attributes.kind_of_isExempt member isExempt

/-- What a resource brings with further locations exempt is left of what it brought before. -/
theorem exists_attributes_of_block
    (more : ∀ location ∈ settings.exempt.map Text.lowerString,
      location ∈ exempt.map Text.lowerString)
    (made : contract.blockFindings settings resource = .ok block) :
    ∃ told, contract.Attributes settings resource told ∧ told.map Attributed.finding = block ∧
      contract.blockFindings { settings with exempt } resource =
        .ok ((told.filter fun one => !one.isExempt exempt).map Attributed.finding) := by
  unfold blockFindings at made ⊢
  cases found : contract.operation? resource.method resource.path with
  | none =>
    rw [found] at made
    cases made
    exact ⟨[], .skipped found, rfl, rfl⟩
  | some operation =>
    simp only [found, ← Settings.context_eq] at made ⊢
    obtain ⟨implemented, readable, later⟩ := Outcome.bind_eq_ok_iff.mp made
    obtain ⟨report, returned, same⟩ := Outcome.bind_eq_ok_iff.mp later
    cases same
    have grows : ∀ location ∈ (settings.context operation resource).exempt,
        location ∈ exemptLocations exempt := by
      intro location member
      exact mem_exemptLocations_iff.mpr (more location (Settings.mem_exempt_context.mp member))
    obtain ⟨left, leftReturned⟩ :=
      Context.exists_reconcile_exempting returned (exemptLocations exempt)
    refine ⟨_, .reconciled found readable (Context.attributes_tell returned),
      (Context.findings_eq_map_tell returned).symm, ?_⟩
    rw [← Context.tell_exempting grows fun _ => mem_exemptLocations_iff,
      ← Context.findings_eq_map_tell leftReturned, readable]
    -- the two contexts differ in the exempt locations only
    change (((settings.context operation resource).exempting (exemptLocations exempt)).reconcile
      (implemented.map Prod.snd) operation.parameters contract.components >>= fun report =>
        .ok report.findings) = _
    rw [leftReturned]
    rfl

/-- The blocks are attributed, and with more exemptions they are filtered. -/
theorem exists_attributes_of_makes {resources : List Resource} {blocks : List (List Finding)}
    (more : ∀ location ∈ settings.exempt.map Text.lowerString,
      location ∈ exempt.map Text.lowerString)
    (made : contract.Makes settings resources blocks) :
    ∃ told, List.Forall₂ (contract.Attributes settings) resources told ∧
      told.map (List.map Attributed.finding) = blocks ∧
      contract.Makes { settings with exempt } resources
        (told.map fun block =>
          (block.filter fun one => !one.isExempt exempt).map Attributed.finding) := by
  induction made with
  | nil => exact ⟨[], .nil, rfl, .nil⟩
  | cons first _ ih =>
    obtain ⟨told, attributes, rfl, left⟩ := exists_attributes_of_block more first
    obtain ⟨later, laterAttributes, rfl, laterLeft⟩ := ih
    exact ⟨told :: later, .cons attributes laterAttributes, rfl, .cons left laterLeft⟩

/-- Only missing findings are exempt. -/
theorem kind_of_isExempt_of_forall₂ {resources : List Resource} {told : List (List Attributed)}
    (attributes : List.Forall₂ (contract.Attributes settings) resources told) {one : Attributed}
    (member : one ∈ told.flatten) (isExempt : one.isExempt exempt = true) :
    one.finding.kind = .missing := by
  induction attributes with
  | nil => cases member
  | cons first _ ih =>
    rcases List.mem_append.mp member with here | later
    · exact first.kind_of_isExempt here isExempt
    · exact ih later

/-- Settings whose exempt locations have the same lower-case forms bring the same. -/
theorem blockFindings_of_alike
    (alike : ∀ location, location ∈ exempt.map Text.lowerString ↔
      location ∈ settings.exempt.map Text.lowerString) :
    contract.blockFindings { settings with exempt } = contract.blockFindings settings := by
  have same : exemptLocations exempt = exemptLocations settings.exempt := by
    apply exemptLocations_congr
    intro location
    rw [mem_exemptLocations_iff, mem_exemptLocations_iff]
    exact alike location
  funext resource
  unfold blockFindings
  rw [same]

/-- **Exemptions take away what is exempt.** With further locations exempt a validation returns its
findings as before, without the parameters of these locations that it reported as missing; what it
says about implemented parameters stays. Settings whose exempt locations differ in letter case,
order and repetitions come to the same. -/
theorem outcome_exempting (contract : Contract) (manifest : Manifest) (settings : Settings)
    (exempt : List String) :
    ((∀ location ∈ settings.exempt.map Text.lowerString,
        location ∈ exempt.map Text.lowerString) →
      ∀ findings, (contract.validate manifest settings).outcome = .ok findings →
        ∃ blocks left, List.Forall₂ (contract.Attributes settings) manifest.resources blocks ∧
          findings = blocks.flatten.map Attributed.finding ∧
          left = (blocks.flatten.filter fun one => !one.isExempt exempt).map Attributed.finding ∧
          (contract.validate manifest { settings with exempt }).outcome = .ok left ∧
          (left.filter fun finding => finding.kind ≠ .missing) =
            findings.filter fun finding => finding.kind ≠ .missing) ∧
    ((∀ location, location ∈ exempt.map Text.lowerString ↔
        location ∈ settings.exempt.map Text.lowerString) →
      (contract.validate manifest { settings with exempt }).outcome =
        (contract.validate manifest settings).outcome) := by
  constructor
  · intro more findings returned
    obtain ⟨blocks, made, rfl⟩ := outcome_validate_eq_ok_iff.mp returned
    obtain ⟨told, attributes, rfl, left⟩ := exists_attributes_of_makes more made
    refine ⟨told, _, attributes, (List.map_flatten ..).symm, rfl, ?_, ?_⟩
    · rw [outcome_validate_eq_ok_iff]
      refine ⟨_, left, ?_⟩
      rw [List.filter_flatten, List.map_flatten, List.map_map]
      rfl
    · rw [← List.map_flatten, List.filter_map, List.filter_map, List.filter_filter]
      refine congrArg (List.map Attributed.finding) (List.filter_congr ?_)
      intro one member
      -- what is taken away is missing, so it is dropped on both sides
      cases isExempt : one.isExempt exempt with
      | false => exact Bool.and_true _
      | true =>
        have missing := kind_of_isExempt_of_forall₂ attributes member isExempt
        simp [missing]
  · intro alike
    rw [outcome_validate_eq, outcome_validate_eq, blockFindings_of_alike alike]

/-- A contract with parameters of one name in a header and in a query, one without a location, and a
reference to a cookie. -/
def stables : Contract where
  operations :=
    [{ method := "get"
       path := "/stables"
       parameters :=
        [{ name := some "trace", location := some "Header" },
          { ref := some "#/components/parameters/session" }, { name := some "limit" },
          { name := some "trace", location := some "query" }] }]
  components := [("session", { location := some "COOKIE" })]

/-- A resource that implements none of them, and one parameter that is not documented. -/
def stablesManifest : Manifest where
  resources :=
    [{ method := "get", path := "/stables", declarations := [.required "debug" "int" {}] }]

def stablesDebug : Finding where
  kind := .undefined
  severity := .error
  location := some {}
  arguments := ["debug", "get", "/stables"]

def stablesMissing (name : String) : Finding where
  kind := .missing
  severity := .error
  location := some {}
  arguments := [name, "get", "/stables"]

/-- Cookies are exempt at first, then headers and parameters without a location as well: of the two
findings about a trace the one about the query is left. -/
theorem outcome_exempting_stables :
    (stables.validate stablesManifest { exempt := ["cookie"] }).outcome =
        .ok [stablesDebug, stablesMissing "trace", stablesMissing "limit",
          stablesMissing "trace"] ∧
      (stables.validate stablesManifest { exempt := ["hEADER", "", "Cookie"] }).outcome =
        .ok [stablesDebug, stablesMissing "trace"] ∧
      (∃ blocks, List.Forall₂ (stables.Attributes { exempt := ["cookie"] })
          stablesManifest.resources blocks ∧
        [stablesDebug, stablesMissing "trace", stablesMissing "limit", stablesMissing "trace"] =
          blocks.flatten.map Attributed.finding ∧
        [stablesDebug, stablesMissing "trace"] =
          (blocks.flatten.filter fun one => !one.isExempt ["hEADER", "", "Cookie"]).map
            Attributed.finding) ∧
      (stables.validate stablesManifest { exempt := ["COOKIE", "cookie"] }).outcome =
        (stables.validate stablesManifest { exempt := ["cookie"] }).outcome := by
  have first : (stables.validate stablesManifest { exempt := ["cookie"] }).outcome =
      .ok [stablesDebug, stablesMissing "trace", stablesMissing "limit",
        stablesMissing "trace"] := by
    decide +kernel
  have second : (stables.validate stablesManifest { exempt := ["hEADER", "", "Cookie"] }).outcome =
      .ok [stablesDebug, stablesMissing "trace"] := by
    decide +kernel
  have alike : ∀ location, location ∈ ["COOKIE", "cookie"].map Text.lowerString ↔
      location ∈ ["cookie"].map Text.lowerString := by
    have lowered : Text.lowerString "COOKIE" = Text.lowerString "cookie" := by decide +kernel
    intro location
    simp only [List.map_cons, List.map_nil, lowered, List.mem_cons, or_self_left]
  obtain ⟨blocks, left, attributes, whole, rest, returned, _⟩ :=
    (outcome_exempting stables stablesManifest { exempt := ["cookie"] }
      ["hEADER", "", "Cookie"]).1 (by decide +kernel) _ first
  refine ⟨first, second, ⟨blocks, attributes, whole, ?_⟩,
    (outcome_exempting stables stablesManifest { exempt := ["cookie"] } ["COOKIE", "cookie"]).2
      alike⟩
  rw [← rest]
  exact Except.ok.inj (second.symm.trans returned)

end Contract

end ParameterDrift
