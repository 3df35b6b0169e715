import ParameterDrift.Proofs.Reconciliation.Halves
import ParameterDrift.Proofs.Service.Reports
import ParameterDrift.Proofs.Signature.FirstDeclared
/-! # One finding for each declared name

A resource brings at most one finding about each of the names that it declares, however often and
in whatever spellings it declares them: what is reported is the first declaration, at its place
(`ParameterDrift.Resource.reportedOnce_of_block`). A run holds such findings for every resource that
it has reached.
-/

namespace ParameterDrift

/-- **One finding for each name.** No two findings about implemented parameters are about one name,
and each stands at the first declaration of its name. -/
structure Resource.ReportedOnce (resource : Resource) (findings : List Finding) : Prop where
  distinct : ((findings.filter fun finding => finding.kind ≠ .missing).map Finding.subject?).Nodup
  placed : ∀ finding ∈ findings, finding.kind ≠ .missing → ∃ name declaration,
    finding.subject? = some name ∧ resource.firstDeclared? name = some declaration ∧
      finding.location = some declaration.location

namespace Context

variable {context : Context} {implemented : List ImplementedParameter}
  {spec : List ContractParameter} {components : Components} {report : Report}

/-- Parameters of different names are reported under different names. -/
theorem nodup_subjects_of_reconcile (distinct : (implemented.map ImplementedParameter.name).Nodup)
    (returned : context.reconcile implemented spec components = .ok report) :
    (report.aboutImplemented.map Finding.subject?).Nodup := by
  rw [aboutImplemented_of_reconcile returned, List.Nodup, List.pairwise_map,
    List.pairwise_filterMap]
  rw [List.Nodup, List.pairwise_map] at distinct
  refine distinct.imp fun different finding found other otherFound same => different ?_
  rw [subject?_of_verdict found, subject?_of_verdict otherFound] at same
  exact Option.some.inj same

end Context

namespace Resource

variable {resource : Resource} {parameters : List (String × ImplementedParameter)}

/-- Keyed parameters have the names that they are keyed by. -/
theorem IsKeyed.names (keyed : resource.IsKeyed parameters) :
    (parameters.map Prod.snd).map ImplementedParameter.name = parameters.map Prod.fst := by
  rw [List.map_map]
  exact List.map_congr_left keyed.named

/-- Each parameter is that of the first declaration of its name, and stands at its place. -/
theorem IsKeyed.exists_firstDeclared (keyed : resource.IsKeyed parameters)
    {own : ImplementedParameter} (member : own ∈ parameters.map Prod.snd) :
    ∃ declaration, resource.firstDeclared? own.name = some declaration ∧
      own.location = declaration.location := by
  obtain ⟨entry, among, rfl⟩ := List.mem_map.mp member
  obtain ⟨declaration, first, implemented⟩ := keyed.first entry among
  obtain ⟨plain, -, same⟩ := Outcome.map_eq_ok_iff.mp implemented
  rw [← keyed.named entry among] at first
  exact ⟨declaration, first, by rw [← same]⟩

/-- The findings of a block are reported once. -/
theorem reportedOnce_of_block {contract : Contract} {settings : Settings} {block : Block}
    (made : contract.block settings resource = .ok block) :
    resource.ReportedOnce block.findings := by
  rcases Contract.skipped_or_reconciled_of_block made with
    ⟨_, rfl⟩ | ⟨operation, parameters, report, _, readable, returned, rfl⟩
  · exact ⟨List.nodup_nil, fun finding member => absurd member List.not_mem_nil⟩
  · have keyed := isKeyed_of_implemented readable
    constructor
    case distinct =>
      exact Context.nodup_subjects_of_reconcile (keyed.names ▸ keyed.distinct) returned
    case placed =>
      intro finding member notMissing
      have about : finding ∈ report.aboutImplemented :=
        List.mem_filter.mpr ⟨member, decide_eq_true notMissing⟩
      rw [Context.aboutImplemented_of_reconcile returned] at about
      obtain ⟨own, among, found⟩ := List.mem_filterMap.mp about
      obtain ⟨declaration, first, place⟩ := keyed.exists_firstDeclared among
      exact ⟨own.name, declaration, Context.subject?_of_verdict found, first,
        (Context.location_of_verdict found).trans (congrArg some place)⟩

end Resource

namespace Contract

/-- The blocks of a run are those of the resources up to the one that ended it. -/
theorem exists_reached (contract : Contract) (settings : Settings) (resources : List Resource) :
    ∃ reached left, resources = reached ++ left ∧
      ((contract.run settings resources).fault = none → left = []) ∧
      List.Forall₂ (fun resource block => contract.block settings resource = .ok block) reached
        (contract.run settings resources).blocks := by
  induction resources with
  | nil => exact ⟨[], [], rfl, fun _ => rfl, .nil⟩
  | cons resource rest ih =>
    rw [run]
    cases made : contract.block settings resource with
    | error fault =>
      refine ⟨[], resource :: rest, rfl, ?_, .nil⟩
      intro ended
      cases ended
    | ok block =>
      obtain ⟨reached, left, rfl, whole, blocks⟩ := ih
      exact ⟨resource :: reached, left, rfl, whole, .cons made blocks⟩

/-- **The first declaration of a name counts.** The parameters of a resource are keyed by the names
that its declarations stand for, each with its first declaration and in their order; and in a run,
each resource that is reached brings at most one finding about a declared name, at the place of its
first declaration. -/
theorem reports_first_declarations (contract : Contract) (settings : Settings)
    (manifest : Manifest) :
    (∀ (resource : Resource) (parameters : List (String × ImplementedParameter)),
        resource.implemented = .ok parameters → resource.IsKeyed parameters) ∧
      ∃ reached left, manifest.resources = reached ++ left ∧
        ((contract.validate manifest settings).fault = none → left = []) ∧
        List.Forall₂ (fun resource block => contract.block settings resource = .ok block ∧
          resource.ReportedOnce block.findings) reached
          (contract.validate manifest settings).blocks := by
  refine ⟨fun resource parameters => Resource.isKeyed_of_implemented, ?_⟩
  obtain ⟨reached, left, split, whole, blocks⟩ :=
    contract.exists_reached settings manifest.resources
  exact ⟨reached, left, split, whole,
    blocks.imp fun _ _ made => ⟨made, Resource.reportedOnce_of_block made⟩⟩

/-- An operation with one parameter. -/
def paddock : Contract where
  operations := [{ method := "get", path := "/paddocks",
                   parameters := [{ name := some "limit", location := some "query",
                                    schema := some { type := some "integer" } }] }]

/-- A resource that declares two names, each in several spellings and forms. -/
def paddockResource : Resource where
  method := "get"
  path := "paddocks"
  declarations :=
    [.path "de\\pth" "int" { line := 1 }, .required "'limit" "string" { line := 2 },
      .defaultable "li\\u\x7b6d\x7dit" "int" .null { line := 3 },
      .required "'depth" "boolean" { line := 4 }, .path "limit" "int" { line := 5 }]

/-- Both names are reported once, at the first of their declarations. -/
theorem reports_first_declarations_paddock :
    paddockResource.IsKeyed
        [("depth", ⟨"depth", "int", .path, { line := 1 }⟩),
          ("limit", ⟨"limit", "string", .required, { line := 2 }⟩)] ∧
      (paddock.validate { resources := [paddockResource] } {}).findings.map
          (fun finding => (finding.kind, finding.subject?, finding.location)) =
        [(.undefined, some "depth", some { line := 1 }),
          (.typeMismatch, some "limit", some { line := 2 })] := by
  have read : paddockResource.implemented = .ok
      [("depth", ⟨"depth", "int", .path, { line := 1 }⟩),
        ("limit", ⟨"limit", "string", .required, { line := 2 }⟩)] := by decide +kernel
  have reports := reports_first_declarations paddock {} { resources := [paddockResource] }
  exact ⟨reports.1 paddockResource _ read, by decide +kernel⟩

end Contract

end ParameterDrift
