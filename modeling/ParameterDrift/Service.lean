import ParameterDrift.Contract.PathShape
import ParameterDrift.Log.Event
import ParameterDrift.Reconciliation
import ParameterDrift.Settings
/-! # Validation of a service

Every resource of a manifest is paired with an operation of the contract and reconciled with it.
The resources are independent of each other: each makes a block of findings, or none when the
contract has no operation for it. A run goes through the resources in order and stops at the first
whose names cannot be read; a block counts as a whole or not at all.
-/

namespace ParameterDrift

/-- What one resource brings. -/
inductive Block
  /-- The contract has no operation for the resource. -/
  | skipped (resource : Resource)
  /-- The resource was reconciled with an operation. -/
  | reconciled (operation : Operation) (report : Report)

namespace Block

/-- The findings of a block. -/
def findings : Block → List Finding
  | .skipped _ => []
  | .reconciled _ report => report.findings

/-- The events of a block. -/
def events : Block → List Log.Event
  | .skipped resource => [.resourceWithoutOperation resource.method resource.path]
  | .reconciled operation report =>
    report.dangling.map .referenceUnresolved ++
      [.reconciliationFinished operation.method operation.path report.findings.length]

end Block

/-- The locations that need no implementation, as a validation hands them on: in lower case. -/
def Settings.exemptions (settings : Settings) : List String :=
  exemptLocations settings.exempt

/-- The context in which a resource is reconciled with an operation. It brings the locations that it
is given into lower case, as every context does. -/
def Settings.context (settings : Settings) (operation : Operation) (resource : Resource) :
    Context where
  method := operation.method
  path := operation.path
  severity := settings.severity
  location := some resource.location
  exempt := exemptLocations settings.exemptions

/-- The block of a resource. -/
def Contract.block (contract : Contract) (settings : Settings) (resource : Resource) :
    Except Identifier.CodePointFault Block :=
  match contract.operation? resource.method resource.path with
  | none => .ok (.skipped resource)
  | some operation => do
    let implemented ← resource.implemented
    let report ← (settings.context operation resource).reconcile (implemented.map Prod.snd)
      operation.parameters contract.components
    .ok (.reconciled operation report)

/-- A run over the resources of a manifest: the blocks that were completed, in order, and the fault
that ended it, if one did. -/
structure Run where
  blocks : List Block := []
  fault : Option Identifier.CodePointFault := none

namespace Run

/-- What the run has reported. -/
def findings (run : Run) : List Finding :=
  run.blocks.flatMap Block.findings

/-- The findings of a run that came to its end. -/
def outcome (run : Run) : Except Identifier.CodePointFault (List Finding) :=
  match run.fault with
  | none => .ok run.findings
  | some fault => .error fault

/-- The events of a run that came to its end. -/
def events (run : Run) : List Log.Event :=
  run.blocks.flatMap Block.events ++ [.serviceValidated run.blocks.length run.findings.length]

end Run

/-- A run over some resources. -/
def Contract.run (contract : Contract) (settings : Settings) : List Resource → Run
  | [] => {}
  | resource :: rest =>
    match contract.block settings resource with
    | .error fault => { fault := some fault }
    | .ok block =>
      let later := contract.run settings rest
      { later with blocks := block :: later.blocks }

/-- When every block is changed in some way, so is the run, and it comes to the same end. -/
theorem Contract.run_map {contract changed : Contract} {settings others : Settings}
    {change : Block → Block}
    (each : ∀ resource, changed.block others resource =
      (contract.block settings resource).map change) (resources : List Resource) :
    changed.run others resources =
      { contract.run settings resources with
        blocks := (contract.run settings resources).blocks.map change } := by
  induction resources with
  | nil => rfl
  | cons resource rest ih =>
    rw [run, each, ih, run]
    cases contract.block settings resource with
    | error fault => rfl
    | ok block => rfl

/-- The run over the resources of a manifest. -/
def Contract.validate (contract : Contract) (manifest : Manifest) (settings : Settings) : Run :=
  contract.run settings manifest.resources

end ParameterDrift
