import ParameterDrift.Proofs.Reconciliation.Attempts
import ParameterDrift.Proofs.Service.Blocks
import ParameterDrift.Proofs.Service.Once
/-! # The log accounts for the run

The events of a run tell of the resources one after the other. For a resource that is skipped there
is one event; for any other there is one for each attempt to follow a reference that leads nowhere,
and then one that says how many findings the resource brought (`ParameterDrift.Contract.Accounts`).
A run that comes to its end tells so by a last event, whose numbers are those of the resources and
of the findings (`ParameterDrift.Contract.events_account`).
-/

namespace ParameterDrift

/-- The findings that an event reports of a resource; none when it tells of something else. -/
def Log.Event.reported : Log.Event → Nat
  | .reconciliationFinished _ _ findings => findings
  | _ => 0

/-- Unresolved references report no findings. -/
theorem Log.Event.reported_referenceUnresolved (refs : List String) :
    ((refs.map referenceUnresolved).map reported).sum = 0 := by
  induction refs with
  | nil => rfl
  | cons ref rest ih => simpa [reported] using ih

/-- What the events of a block report is what it holds. -/
theorem Block.reported_events (block : Block) :
    (block.events.map Log.Event.reported).sum = block.findings.length := by
  cases block with
  | skipped resource => rfl
  | reconciled operation report =>
    rw [events, List.map_append, List.sum_append, Log.Event.reported_referenceUnresolved,
      Nat.zero_add]
    rfl

/-- What the events of a run report is what the run has found. -/
theorem Run.reported_events (run : Run) :
    (run.events.map Log.Event.reported).sum = run.findings.length := by
  have blocks : ((run.blocks.flatMap Block.events).map Log.Event.reported).sum =
      run.findings.length := by
    rw [findings]
    induction run.blocks with
    | nil => rfl
    | cons block rest ih =>
      rw [List.flatMap_cons, List.flatMap_cons, List.map_append, List.sum_append, ih,
        Block.reported_events, List.length_append]
  rw [events, List.map_append, List.sum_append, blocks]
  rfl

namespace Contract

/-- **What the log tells of one resource.** That it was skipped, when the contract has no operation
for it. Else every attempt of its reconciliation to follow a reference that leads nowhere, and then
the method and the path of the operation and the number of findings that the resource brings. -/
inductive Accounts (contract : Contract) (settings : Settings) (resource : Resource) :
    List Log.Event → Prop
  | skipped (unpaired : contract.operation? resource.method resource.path = none) :
      Accounts contract settings resource
        [.resourceWithoutOperation resource.method resource.path]
  | reconciled {operation : Operation} {implemented : List (String × ImplementedParameter)}
      {refs : List String} {findings : List Finding}
      (paired : contract.operation? resource.method resource.path = some operation)
      (declared : resource.implemented = .ok implemented)
      (brought : contract.blockFindings settings resource = .ok findings)
      (followed : refs = followedInVain contract.components (implemented.map Prod.snd)
        operation.parameters)
      (counted : refs.length = failedAttempts contract.components (implemented.map Prod.snd)
        operation.parameters) :
      Accounts contract settings resource
        (refs.map .referenceUnresolved ++
          [.reconciliationFinished operation.method operation.path findings.length])

variable {contract : Contract} {settings : Settings}

/-- The events of a block are those that the log tells of its resource. -/
theorem accounts_of_block {resource : Resource} {block : Block}
    (made : contract.block settings resource = .ok block) :
    contract.Accounts settings resource block.events := by
  have brought : contract.blockFindings settings resource = .ok block.findings := by
    rw [blockFindings_eq, made, Except.map]
  rcases skipped_or_reconciled_of_block made with
    ⟨unpaired, rfl⟩ | ⟨operation, implemented, report, paired, declared, returned, rfl⟩
  · exact .skipped unpaired
  · exact .reconciled paired declared brought (Context.dangling_of_reconcile returned)
      (Context.length_dangling_of_reconcile returned)

/-- **The log accounts for the run.** The events of a validation that comes to its end are those of
the resources, one after the other, and then one that counts the resources and the findings. As many
findings are reported of the resources together as are returned. -/
theorem events_account {manifest : Manifest} {findings : List Finding}
    (returned : (contract.validate manifest settings).outcome = .ok findings) :
    ∃ accounts, List.Forall₂ (contract.Accounts settings) manifest.resources accounts ∧
      (contract.validate manifest settings).events =
        accounts.flatten ++ [.serviceValidated manifest.resources.length findings.length] ∧
      ((contract.validate manifest settings).events.map Log.Event.reported).sum =
        findings.length := by
  obtain ⟨ended, rfl⟩ := Run.outcome_eq_ok_iff.mp returned
  obtain ⟨reached, left, split, whole, made⟩ :=
    contract.exists_reached settings manifest.resources
  -- a run without a fault has reached all resources
  obtain rfl : manifest.resources = reached := by rw [split, whole ended, List.append_nil]
  refine ⟨(contract.validate manifest settings).blocks.map Block.events, ?_, ?_, ?_⟩
  · exact List.forall₂_map_right_iff.mpr (made.imp fun _ _ => accounts_of_block)
  · rw [Run.events, List.flatMap_def, made.length_eq]
    rfl
  · exact Run.reported_events _

/-- An operation whose entries hold two references that lead nowhere, one before and one after the
entry for `limit`, and one to a component. -/
def coops : Contract where
  operations :=
    [{ method := "get", path := "/coops",
       parameters :=
        [{ ref := some "#/components/parameters/gone" },
          { name := some "limit", location := some "query",
            schema := some { type := some "integer" } },
          { ref := some "https://example.com/parameters/page" },
          { ref := some "#/components/parameters/page" }] }]
  components := [("page", { location := some "query" })]

/-- A resource with a parameter of another type than the one that is documented, and one that is not
documented. -/
def coopResource : Resource where
  method := "get"
  path := "coops"
  declarations := [.required "limit" "string" { line := 1 }, .required "depth" "int" { line := 2 }]

/-- A resource that the contract has no operation for. -/
def coopStray : Resource where
  method := "post"
  path := "coops"

/-- What is found about the resource that has an operation. -/
def coopFindings : List Finding :=
  [{ kind := .typeMismatch, severity := .error, location := some { line := 1 },
     arguments := ["integer", "string", "limit", "get", "/coops"] },
    { kind := .undefined, severity := .error, location := some { line := 2 },
      arguments := ["depth", "get", "/coops"] },
    { kind := .missing, severity := .error, location := some {},
      arguments := ["page", "get", "/coops"] }]

/-- The search for `limit` comes across one of the two references, the search for `depth` and the
second pass across both. -/
theorem events_account_coops :
    (coops.validate { resources := [coopStray, coopResource] } {}).outcome = .ok coopFindings ∧
      (∃ accounts, List.Forall₂ (coops.Accounts {}) [coopStray, coopResource] accounts ∧
        (coops.validate { resources := [coopStray, coopResource] } {}).events =
          accounts.flatten ++ [.serviceValidated 2 3] ∧
        ((coops.validate { resources := [coopStray, coopResource] } {}).events.map
          Log.Event.reported).sum = 3) ∧
      (coops.validate { resources := [coopStray, coopResource] } {}).events =
        [.resourceWithoutOperation "post" "coops",
          .referenceUnresolved "#/components/parameters/gone",
          .referenceUnresolved "#/components/parameters/gone",
          .referenceUnresolved "https://example.com/parameters/page",
          .referenceUnresolved "#/components/parameters/gone",
          .referenceUnresolved "https://example.com/parameters/page",
          .reconciliationFinished "get" "/coops" 3, .serviceValidated 2 3] := by
  have returned : (coops.validate { resources := [coopStray, coopResource] } {}).outcome =
      .ok coopFindings := by decide +kernel
  exact ⟨returned, events_account returned, by decide +kernel⟩

end Contract

end ParameterDrift
