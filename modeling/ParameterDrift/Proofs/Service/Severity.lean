import ParameterDrift.Proofs.Reconciliation.Passes
import ParameterDrift.Service
/-! # Validations with another severity

The severity of the settings stands in every finding and nowhere else: no comparison looks at it.
So a validation with another severity is the same run, with the new severity in its findings
(`ParameterDrift.Contract.validate_graded`).
-/

namespace ParameterDrift

variable (severity : Severity)

/-! ### The records

In each record the findings that it holds have another severity, and nothing else is different. -/

/-- A finding with another severity. -/
def Finding.graded (finding : Finding) : Finding :=
  { finding with severity := severity }

def Report.graded (report : Report) : Report :=
  { report with findings := report.findings.map (Finding.graded severity) }

def Block.graded : Block → Block
  | .skipped resource => .skipped resource
  | .reconciled operation report => .reconciled operation (report.graded severity)

def Run.graded (run : Run) : Run :=
  { run with blocks := run.blocks.map (Block.graded severity) }

def Context.graded (context : Context) : Context :=
  { context with severity := severity }

def Settings.graded (settings : Settings) : Settings :=
  { settings with severity := severity }

/-! ### Reconciling -/

namespace Context

variable (context : Context) (implemented : List ImplementedParameter)
  (spec : List ContractParameter) (components : Components)

/-- Under another severity an undefined finding is graded so. -/
theorem undefinedFinding_graded (own : ImplementedParameter) :
    (context.graded severity).undefinedFinding own =
      (context.undefinedFinding own).map (Finding.graded severity) := by
  rw [undefinedFinding, undefinedFinding]
  change (DisplayPath.ofString context.path).map _ = _
  cases DisplayPath.ofString context.path with
  | error fault => rfl
  | ok path => rfl

/-- Under another severity a verdict is graded so. -/
theorem judge_graded (own : ImplementedParameter) :
    (context.graded severity).judge spec components own =
      (context.judge spec components own).map (Option.map (Finding.graded severity)) := by
  rw [judge, judge]
  cases (search components own.name spec).found with
  | none =>
    rw [findingFor, findingFor, undefinedFinding_graded]
    cases context.undefinedFinding own with
    | error fault => rfl
    | ok finding => rfl
  | some documented =>
    rw [findingFor, findingFor]
    cases TypeName.mismatch? documented.schema own.declaredType with
    | none => rfl
    | some contractType => rfl

/-- The report of the first pass is graded. -/
theorem checkImplemented_graded :
    (context.graded severity).checkImplemented spec components implemented =
      (context.checkImplemented spec components implemented).map (Report.graded severity) := by
  induction implemented with
  | nil => rfl
  | cons own rest ih =>
    rw [checkImplemented, checkImplemented, ih]
    change ((context.graded severity).judge spec components own >>= fun finding => _) =
      (context.judge spec components own >>= fun finding => _).map (Report.graded severity)
    rw [judge_graded]
    cases context.judge spec components own with
    | error fault => rfl
    | ok finding =>
      cases context.checkImplemented spec components rest with
      | error fault => rfl
      | ok later =>
        simp only [Except.map, bind, Except.bind, Report.graded, List.map_append,
          Option.toList_map]

/-- The report of the second pass is graded. -/
theorem checkDocumented_graded :
    (context.graded severity).checkDocumented implemented components spec =
      (context.checkDocumented implemented components spec).graded severity := by
  induction spec with
  | nil => rfl
  | cons entry rest ih =>
    rw [checkDocumented, ih, checkDocumented]
    cases entry.resolve components with
    | error ref => rfl
    | ok parameter =>
      change Report.mk (((context.missed? implemented parameter).map
          (context.graded severity).missingFinding).toList ++ _) _ =
        Report.graded severity (Report.mk (((context.missed? implemented parameter).map
          context.missingFinding).toList ++ _) _)
      cases context.missed? implemented parameter with
      | none => rfl
      | some name => rfl

/-- The report of both passes is graded. -/
theorem reconcile_graded :
    (context.graded severity).reconcile implemented spec components =
      (context.reconcile implemented spec components).map (Report.graded severity) := by
  rw [reconcile, checkImplemented_graded, checkDocumented_graded, reconcile]
  cases context.checkImplemented spec components implemented with
  | error fault => rfl
  | ok first => simp only [Except.map, Report.graded, List.map_append]

end Context

/-! ### Running -/

namespace Contract

variable (contract : Contract) (settings : Settings)

/-- The block of a resource is graded. -/
theorem block_graded (resource : Resource) :
    contract.block (settings.graded severity) resource =
      (contract.block settings resource).map (Block.graded severity) := by
  rw [block, block]
  cases contract.operation? resource.method resource.path with
  | none => rfl
  | some operation =>
    simp only
    cases resource.implemented with
    | error fault => rfl
    | ok implemented =>
      have same : ((settings.graded severity).context operation resource).reconcile
          (implemented.map Prod.snd) operation.parameters contract.components =
          ((settings.context operation resource).reconcile (implemented.map Prod.snd)
            operation.parameters contract.components).map (Report.graded severity) :=
        (settings.context operation resource).reconcile_graded severity _ _ _
      change (((settings.graded severity).context operation resource).reconcile
          (implemented.map Prod.snd) operation.parameters contract.components >>= fun report =>
            .ok (.reconciled operation report)) =
        ((settings.context operation resource).reconcile (implemented.map Prod.snd)
          operation.parameters contract.components >>= fun report =>
            .ok (.reconciled operation report)).map (Block.graded severity)
      rw [same]
      cases (settings.context operation resource).reconcile (implemented.map Prod.snd)
          operation.parameters contract.components with
      | error fault => rfl
      | ok report => rfl

/-- **Another severity.** A validation with another severity is the same run, with that severity in
its findings. -/
theorem validate_graded (manifest : Manifest) :
    contract.validate manifest (settings.graded severity) =
      (contract.validate manifest settings).graded severity :=
  run_map (contract.block_graded severity settings) manifest.resources

end Contract

namespace Run

/-- The findings of a graded run are graded. -/
theorem findings_graded (run : Run) :
    (run.graded severity).findings = run.findings.map (Finding.graded severity) := by
  rw [findings, graded, List.flatMap_map, findings, List.map_flatMap]
  refine List.flatMap_congr ?_
  intro block _
  cases block with
  | skipped resource => rfl
  | reconciled operation report => rfl

/-- The outcome of a graded run is graded. -/
theorem outcome_graded (run : Run) :
    (run.graded severity).outcome = run.outcome.map (List.map (Finding.graded severity)) := by
  obtain ⟨blocks, fault⟩ := run
  cases fault with
  | none => exact congrArg Except.ok (findings_graded severity _)
  | some fault => rfl

end Run

end ParameterDrift
