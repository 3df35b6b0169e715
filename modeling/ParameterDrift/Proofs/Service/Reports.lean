import ParameterDrift.Proofs.Finding
import ParameterDrift.Proofs.Reconciliation.Passes
/-! # Where findings come from

A reconciliation reports at three sites: an implemented parameter that is not documented, one that
is documented with another type, and a documented parameter that is not implemented. Every finding
of a validation was reported at one of them, in the context of a resource and its operation
(`ParameterDrift.Contract.exists_reports_of_mem`). What holds at the three sites holds of all
findings: each carries the severity of the settings and can be told.
-/

namespace ParameterDrift

namespace Context

/-- The findings that a context can report, by the site at which it does. -/
inductive Reports (context : Context) : Finding → Prop
  | undefined {own : ImplementedParameter} {finding : Finding} :
      context.undefinedFinding own = .ok finding → Reports context finding
  | mismatch (own : ImplementedParameter) (contractType : String) :
      Reports context (context.mismatchFinding own contractType)
  | missing (name : String) : Reports context (context.missingFinding name)

variable {context : Context} {implemented : List ImplementedParameter}
  {spec : List ContractParameter} {components : Components} {finding : Finding}

/-- A reported finding has the severity of the context. -/
theorem Reports.severity (reported : context.Reports finding) :
    finding.severity = context.severity := by
  cases reported with
  | undefined made =>
    obtain ⟨path, _, rfl⟩ := Outcome.map_eq_ok_iff.mp made
    rfl
  | mismatch => rfl
  | missing => rfl

/-- Every site gives the arguments that the template asks for. -/
theorem Reports.isComplete (reported : context.Reports finding) : finding.IsComplete := by
  cases reported with
  | undefined made =>
    obtain ⟨path, _, rfl⟩ := Outcome.map_eq_ok_iff.mp made
    rfl
  | mismatch => rfl
  | missing => rfl

/-- A verdict is reported. -/
theorem reports_of_judge {own : ImplementedParameter}
    (judged : context.judge spec components own = .ok (some finding)) :
    context.Reports finding := by
  rw [judge] at judged
  cases searched : (search components own.name spec).found with
  | none =>
    rw [searched] at judged
    obtain ⟨_, made, same⟩ := Outcome.map_eq_ok_iff.mp judged
    cases same
    exact .undefined made
  | some documented =>
    rw [searched] at judged
    obtain ⟨contractType, _, rfl⟩ := Option.map_eq_some_iff.mp (Except.ok.inj judged)
    exact .mismatch own contractType

/-- What is missing is reported. -/
theorem reports_of_missing {entry : ContractParameter}
    (missed : context.missing implemented components entry = some finding) :
    context.Reports finding := by
  obtain ⟨name, _, rfl⟩ := Option.map_eq_some_iff.mp missed
  exact .missing name

/-- Every finding of a reconciliation is reported at one of the sites. -/
theorem reports_of_mem_reconcile {report : Report}
    (returned : context.reconcile implemented spec components = .ok report)
    (member : finding ∈ report.findings) : context.Reports finding := by
  rw [findings_of_reconcile returned, List.mem_append, List.mem_filterMap, List.mem_filterMap]
    at member
  rcases member with ⟨own, _, judged⟩ | ⟨entry, _, missed⟩
  · exact reports_of_judge (judge_of_verdict judged)
  · exact reports_of_missing missed

end Context

/-- A run that comes to its end returns what it has reported. -/
theorem Run.outcome_eq_ok_iff {run : Run} {findings : List Finding} :
    run.outcome = .ok findings ↔ run.fault = none ∧ run.findings = findings := by
  rw [outcome]
  cases run.fault with
  | none => simp
  | some fault => simp

namespace Contract

variable {contract : Contract} {settings : Settings} {finding : Finding}

/-- A resource that the contract has no operation for is skipped, and any other is reconciled with
its operation. -/
theorem skipped_or_reconciled_of_block {resource : Resource} {block : Block}
    (made : contract.block settings resource = .ok block) :
    (contract.operation? resource.method resource.path = none ∧ block = .skipped resource) ∨
      ∃ operation implemented report,
        contract.operation? resource.method resource.path = some operation ∧
        resource.implemented = .ok implemented ∧
        (settings.context operation resource).reconcile (implemented.map Prod.snd)
          operation.parameters contract.components = .ok report ∧
        block = .reconciled operation report := by
  rw [Contract.block] at made
  cases found : contract.operation? resource.method resource.path with
  | none =>
    rw [found] at made
    exact .inl ⟨rfl, (Except.ok.inj made).symm⟩
  | some operation =>
    rw [found] at made
    obtain ⟨implemented, readable, later⟩ := Outcome.bind_eq_ok_iff.mp made
    obtain ⟨report, returned, same⟩ := Outcome.bind_eq_ok_iff.mp later
    exact .inr ⟨operation, implemented, report, rfl, readable, returned,
      (Except.ok.inj same).symm⟩

/-- The findings of a block are those of a reconciliation with an operation of the contract. -/
theorem exists_reconcile_of_mem_block {resource : Resource} {block : Block}
    (made : contract.block settings resource = .ok block) (member : finding ∈ block.findings) :
    ∃ operation ∈ contract.operations, ∃ implemented report,
      resource.implemented = .ok implemented ∧
      (settings.context operation resource).reconcile (implemented.map Prod.snd)
        operation.parameters contract.components = .ok report ∧ finding ∈ report.findings := by
  rcases skipped_or_reconciled_of_block made with
    ⟨_, rfl⟩ | ⟨operation, implemented, report, paired, readable, returned, rfl⟩
  · cases member
  · exact ⟨operation, List.mem_of_find?_eq_some paired, implemented, report, readable, returned,
      member⟩

/-- The findings of a run are those of the blocks of its resources. -/
theorem exists_block_of_mem_run {resources : List Resource}
    (member : finding ∈ (contract.run settings resources).findings) :
    ∃ resource ∈ resources, ∃ block, contract.block settings resource = .ok block ∧
      finding ∈ block.findings := by
  induction resources with
  | nil => exact absurd member List.not_mem_nil
  | cons resource rest ih =>
    rw [run] at member
    cases made : contract.block settings resource with
    | error fault =>
      rw [made] at member
      exact absurd member List.not_mem_nil
    | ok block =>
      rw [made] at member
      change finding ∈ (block :: _).flatMap Block.findings at member
      rcases List.mem_append.mp member with first | later
      · exact ⟨resource, List.mem_cons_self, block, made, first⟩
      · obtain ⟨other, among, others⟩ := ih later
        exact ⟨other, List.mem_cons_of_mem resource among, others⟩

/-- **Every finding of a validation** is one of a reconciliation of a resource with an operation. -/
theorem exists_reconcile_of_mem {manifest : Manifest}
    (member : finding ∈ (contract.validate manifest settings).findings) :
    ∃ resource ∈ manifest.resources, ∃ operation ∈ contract.operations, ∃ implemented report,
      resource.implemented = .ok implemented ∧
      (settings.context operation resource).reconcile (implemented.map Prod.snd)
        operation.parameters contract.components = .ok report ∧ finding ∈ report.findings := by
  obtain ⟨resource, among, block, made, inBlock⟩ := exists_block_of_mem_run member
  exact ⟨resource, among, exists_reconcile_of_mem_block made inBlock⟩

/-- It was reported at one of the sites. -/
theorem exists_reports_of_mem {manifest : Manifest}
    (member : finding ∈ (contract.validate manifest settings).findings) :
    ∃ resource ∈ manifest.resources, ∃ operation,
      (settings.context operation resource).Reports finding := by
  obtain ⟨resource, among, operation, _, _, _, _, returned, inReport⟩ :=
    exists_reconcile_of_mem member
  exact ⟨resource, among, operation, Context.reports_of_mem_reconcile returned inReport⟩

/-- Every finding of a validation has the severity of the settings. -/
theorem severity_of_mem {manifest : Manifest}
    (member : finding ∈ (contract.validate manifest settings).findings) :
    finding.severity = settings.severity := by
  obtain ⟨_, _, _, reported⟩ := exists_reports_of_mem member
  exact reported.severity

/-- Every finding of a validation has all its arguments. -/
theorem isComplete_of_mem {manifest : Manifest}
    (member : finding ∈ (contract.validate manifest settings).findings) : finding.IsComplete := by
  obtain ⟨_, _, _, reported⟩ := exists_reports_of_mem member
  exact reported.isComplete

end Contract

end ParameterDrift
