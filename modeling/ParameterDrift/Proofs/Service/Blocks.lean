import Mathlib.Data.List.Perm.Basic
import ParameterDrift.Collector
import ParameterDrift.Proofs.Reconciliation.Exemption
/-! # A validation is made of the blocks of its resources

What a resource brings depends on the resource, the contract and the settings, and not on the other
resources. A validation puts these blocks one after the other, both in what it returns and in the
collector, after what the collector held before; and at the first block that cannot be made it stops
with that fault and leaves the blocks before it in the collector
(`ParameterDrift.Contract.validateInto_eq_blocks`). Without a collector a validation comes to the
same end (`ParameterDrift.Contract.validateInto_eq_validate`).
-/

namespace ParameterDrift

theorem Collector.findings_reportAll (collector : Collector) (findings : List Finding) :
    (collector.reportAll findings).findings = collector.findings ++ findings := by
  induction findings generalizing collector with
  | nil => exact (List.append_nil _).symm
  | cons finding rest ih =>
    change ((collector.report finding.kind finding.location finding.severity
      finding.arguments).reportAll rest).findings = _
    rw [ih, Collector.report, List.append_assoc, List.singleton_append]

/-- Findings can be reported one list after the other. -/
theorem Collector.reportAll_reportAll (collector : Collector) (first second : List Finding) :
    (collector.reportAll first).reportAll second = collector.reportAll (first ++ second) := by
  rw [reportAll, reportAll, reportAll, List.foldl_append]

/-- The locations that a context is made with are those of the settings in lower case. -/
theorem Settings.context_eq (settings : Settings) (operation : Operation) (resource : Resource) :
    settings.context operation resource =
      { method := operation.method
        path := operation.path
        severity := settings.severity
        location := some resource.location
        exempt := exemptLocations settings.exempt } := by
  rw [Settings.context, Settings.exemptions, exemptLocations_exemptLocations]

namespace Contract

/-- **What a resource brings by itself.** Nothing, if the contract has no operation for it; else
what the reconciliation of its parameters with those of the operation finds, told by the method and
the path of the operation, the severity and the exemptions of the settings, and the place of the
resource. -/
def blockFindings (contract : Contract) (settings : Settings) (resource : Resource) :
    Except Identifier.CodePointFault (List Finding) :=
  match contract.operation? resource.method resource.path with
  | none => .ok []
  | some operation => do
    let implemented ← resource.implemented
    let report ← Context.reconcile
      { method := operation.method
        path := operation.path
        severity := settings.severity
        location := some resource.location
        exempt := exemptLocations settings.exempt }
      (implemented.map Prod.snd) operation.parameters contract.components
    .ok report.findings

/-- Each of some resources brings the block at its place. -/
def Makes (contract : Contract) (settings : Settings) (resources : List Resource)
    (blocks : List (List Finding)) : Prop :=
  List.Forall₂ (fun resource block => contract.blockFindings settings resource = .ok block)
    resources blocks

variable {contract : Contract} {settings : Settings} {resource : Resource}
  {resources rest before : List Resource} {found block : List Finding}
  {blocks : List (List Finding)} {collector : Collector} {fault : Identifier.CodePointFault}

/-! ### One resource -/

/-- The findings of a resource are those of its block. -/
theorem blockFindings_eq (contract : Contract) (settings : Settings) (resource : Resource) :
    contract.blockFindings settings resource =
      (contract.block settings resource).map Block.findings := by
  rw [blockFindings, Contract.block]
  cases contract.operation? resource.method resource.path with
  | none => rfl
  | some operation =>
    simp only [← Settings.context_eq]
    cases resource.implemented with
    | error fault => rfl
    | ok implemented =>
      change ((settings.context operation resource).reconcile (implemented.map Prod.snd)
          operation.parameters contract.components >>= fun report => .ok report.findings) =
        ((settings.context operation resource).reconcile (implemented.map Prod.snd)
          operation.parameters contract.components >>= fun report =>
            .ok (Block.reconciled operation report)).map Block.findings
      cases (settings.context operation resource).reconcile (implemented.map Prod.snd)
          operation.parameters contract.components with
      | error fault => rfl
      | ok report => rfl

/-- A block is returned and reported as a whole, or the validation ends there. -/
theorem validateFrom_cons (contract : Contract) (settings : Settings) (resource : Resource)
    (rest : List Resource) (found : List Finding) (collector : Collector) :
    contract.validateFrom settings (resource :: rest) found collector =
      match contract.blockFindings settings resource with
      | .error fault => (.error fault, collector)
      | .ok block =>
        contract.validateFrom settings rest (found ++ block) (collector.reportAll block) := by
  rw [validateFrom, blockFindings_eq, block]
  cases contract.operation? resource.method resource.path with
  | none =>
    simp only [Except.map, Block.findings, List.append_nil, Collector.reportAll, List.foldl_nil]
  | some operation =>
    cases resource.implemented with
    | error fault => rfl
    | ok implemented =>
      simp only [Context.reconcileInto, bind, Except.bind]
      cases (settings.context operation resource).reconcile (implemented.map Prod.snd)
          operation.parameters contract.components with
      | error fault => rfl
      | ok report => rfl

/-! ### Many resources -/

/-- The blocks of two lists of resources are those of each. -/
theorem Makes.split (made : contract.Makes settings (before ++ rest) blocks) :
    ∃ first last, blocks = first ++ last ∧ contract.Makes settings before first ∧
      contract.Makes settings rest last := by
  have first := List.forall₂_take before.length made
  have last := List.forall₂_drop before.length made
  rw [List.take_left] at first
  rw [List.drop_left] at last
  exact ⟨_, _, (List.take_append_drop before.length blocks).symm, first, last⟩

/-- After some resources that make their blocks, a validation goes on with the blocks returned and
reported. -/
theorem validateFrom_append (made : contract.Makes settings before blocks) :
    contract.validateFrom settings (before ++ rest) found collector =
      contract.validateFrom settings rest (found ++ blocks.flatten)
        (collector.reportAll blocks.flatten) := by
  induction made generalizing found collector with
  | nil => simp only [List.nil_append, List.flatten_nil, List.append_nil, Collector.reportAll,
      List.foldl_nil]
  | @cons resource block others later first _ ih =>
    rw [List.cons_append, validateFrom_cons, first]
    change contract.validateFrom settings (others ++ rest) (found ++ block)
      (collector.reportAll block) = _
    rw [ih, List.flatten_cons, List.append_assoc, Collector.reportAll_reportAll]

/-- If every resource has a block, the blocks are returned and reported. -/
theorem validateFrom_of_makes (made : contract.Makes settings resources blocks) :
    contract.validateFrom settings resources [] collector =
      (.ok blocks.flatten, { findings := collector.findings ++ blocks.flatten }) := by
  have whole : contract.validateFrom settings (resources ++ []) [] collector =
      contract.validateFrom settings [] ([] ++ blocks.flatten)
        (collector.reportAll blocks.flatten) := validateFrom_append made
  rw [List.append_nil, List.nil_append, validateFrom] at whole
  rw [whole, ← Collector.findings_reportAll]

/-- If one has none, its fault is returned and the blocks before it are reported. -/
theorem validateFrom_of_error (made : contract.Makes settings before blocks)
    (failed : contract.blockFindings settings resource = .error fault) :
    contract.validateFrom settings (before ++ resource :: rest) [] collector =
      (.error fault, { findings := collector.findings ++ blocks.flatten }) := by
  rw [validateFrom_append made, validateFrom_cons, failed]
  exact Prod.ext rfl (congrArg Collector.mk (Collector.findings_reportAll collector _))

/-- A validation reports what it would find without a collector, and ends alike. -/
theorem validateInto_eq_validate (contract : Contract) (manifest : Manifest) (settings : Settings)
    (collector : Collector) :
    contract.validateInto manifest settings collector =
      ((contract.validate manifest settings).outcome,
        collector.reportAll (contract.validate manifest settings).findings) := by
  have each : ∀ (resources : List Resource) (found : List Finding) (collector : Collector),
      contract.validateFrom settings resources found collector =
        ((contract.run settings resources).outcome.map (found ++ ·),
          collector.reportAll (contract.run settings resources).findings) := by
    intro resources
    induction resources with
    | nil =>
      intro found collector
      exact Prod.ext (congrArg Except.ok (List.append_nil found).symm) rfl
    | cons resource rest ih =>
      intro found collector
      rw [validateFrom_cons, blockFindings_eq, run]
      cases contract.block settings resource with
      | error fault => rfl
      | ok block =>
        change contract.validateFrom settings rest (found ++ block.findings)
          (collector.reportAll block.findings) = _
        rw [ih, Collector.reportAll_reportAll]
        refine Prod.ext ?_ rfl
        cases ended : (contract.run settings rest).fault with
        | none =>
          simp only [Run.outcome, ended, Except.map, Run.findings, List.flatMap_cons,
            List.append_assoc]
        | some fault => simp only [Run.outcome, ended, Except.map]
  rw [validateInto, each]
  refine Prod.ext ?_ rfl
  change (contract.validate manifest settings).outcome.map ([] ++ ·) = _
  cases (contract.validate manifest settings).outcome with
  | error fault => rfl
  | ok findings => rfl

/-- A validation returns the blocks of the resources, one after the other, or the fault of the first
that cannot be made. -/
theorem outcome_validate_eq (contract : Contract) (manifest : Manifest) (settings : Settings) :
    (contract.validate manifest settings).outcome =
      (manifest.resources.mapM (contract.blockFindings settings)).map List.flatten := by
  have told : (contract.validateInto manifest settings {}).1 =
      (contract.validate manifest settings).outcome :=
    congrArg Prod.fst (contract.validateInto_eq_validate manifest settings {})
  rw [← told, validateInto]
  cases each : manifest.resources.mapM (contract.blockFindings settings) with
  | ok blocks => rw [validateFrom_of_makes (Outcome.mapM_eq_ok_iff.mp each), Except.map]
  | error fault =>
    obtain ⟨before, resource, after, split, done, failed⟩ := Outcome.mapM_eq_error_iff.mp each
    obtain ⟨blocks, made⟩ := Outcome.exists_mapM_eq_ok_iff.mpr done
    rw [split, validateFrom_of_error (Outcome.mapM_eq_ok_iff.mp made) failed, Except.map]

/-- A validation that comes to its end has made a block for every resource. -/
theorem outcome_validate_eq_ok_iff {manifest : Manifest} {findings : List Finding} :
    (contract.validate manifest settings).outcome = .ok findings ↔
      ∃ blocks, contract.Makes settings manifest.resources blocks ∧ blocks.flatten = findings := by
  rw [outcome_validate_eq, Outcome.map_eq_ok_iff]
  exact exists_congr fun _ => and_congr_left' Outcome.mapM_eq_ok_iff

/-! ### The whole -/

/-- **A validation is made of blocks.** When every resource makes its block, the blocks are returned
in the order of the resources, and the collector holds them after what it held before; resources
that are taken out or moved take their blocks with them. When a block cannot be made, its fault ends
the validation, and the collector has gained the blocks before it and nothing else. -/
theorem validateInto_eq_blocks (contract : Contract) (settings : Settings) (manifest : Manifest)
    (collector : Collector) :
    ((∀ resource ∈ manifest.resources, ∃ block,
        contract.blockFindings settings resource = .ok block) →
      ∃ blocks, contract.Makes settings manifest.resources blocks ∧
        contract.validateInto manifest settings collector =
          (.ok blocks.flatten, { findings := collector.findings ++ blocks.flatten }) ∧
        (∀ before removed after, manifest.resources = before ++ removed ++ after →
          ∃ first middle last, blocks = first ++ middle ++ last ∧
            contract.Makes settings before first ∧ contract.Makes settings removed middle ∧
            contract.Makes settings after last ∧
            contract.validateInto { manifest with resources := before ++ after } settings
                collector =
              (.ok (first ++ last).flatten,
                { findings := collector.findings ++ (first ++ last).flatten })) ∧
        ∀ moved, moved.Perm manifest.resources →
          ∃ movedBlocks, contract.Makes settings moved movedBlocks ∧ movedBlocks.Perm blocks ∧
            contract.validateInto { manifest with resources := moved } settings collector =
              (.ok movedBlocks.flatten,
                { findings := collector.findings ++ movedBlocks.flatten })) ∧
      ∀ before resource after blocks fault, manifest.resources = before ++ resource :: after →
        contract.Makes settings before blocks →
        contract.blockFindings settings resource = .error fault →
        contract.validateInto manifest settings collector =
          (.error fault, { findings := collector.findings ++ blocks.flatten }) := by
  constructor
  · intro each
    obtain ⟨blocks, returned⟩ := Outcome.exists_mapM_eq_ok_iff.mpr each
    have made : contract.Makes settings manifest.resources blocks :=
      Outcome.mapM_eq_ok_iff.mp returned
    refine ⟨blocks, made, validateFrom_of_makes made, ?_, ?_⟩
    · intro before removed after split
      have parts : contract.Makes settings (before ++ removed ++ after) blocks := split ▸ made
      obtain ⟨start, last, rfl, startMade, lastMade⟩ := parts.split
      obtain ⟨first, middle, rfl, firstMade, middleMade⟩ := startMade.split
      refine ⟨first, middle, last, rfl, firstMade, middleMade, lastMade, ?_⟩
      exact validateFrom_of_makes (List.rel_append firstMade lastMade)
    · intro moved perm
      obtain ⟨movedBlocks, movedMade, permBlocks⟩ := List.perm_comp_forall₂ perm made
      exact ⟨movedBlocks, movedMade, permBlocks, validateFrom_of_makes movedMade⟩
  · intro before resource after blocks fault split made failed
    rw [validateInto, split]
    exact validateFrom_of_error made failed

/-- A contract of one operation with one parameter. -/
def herd : Contract where
  operations := [{ method := "get", path := "/herds/\x7bid\x7d",
                   parameters := [{ name := some "limit", location := some "query" }] }]

/-- A resource that implements the operation without its parameter. -/
def herdBare : Resource where
  method := "GET"
  path := "herds/[int id]"

/-- A resource that the contract has no operation for. -/
def herdStray : Resource where
  method := "get"
  path := "/herds"

/-- A resource that implements the operation with a name that cannot be read. -/
def herdUnreadable : Resource where
  method := "get"
  path := "/herds/[int id]"
  declarations := [.required "\\u\x7b110000\x7d" "int" {}]

/-- What is found about the bare resource. -/
def herdMissing : Finding where
  kind := .missing
  severity := .error
  location := some {}
  arguments := ["limit", "get", "/herds/\x7bid\x7d"]

/-- A collector that was reported to before. -/
def herdEarlier : Collector where
  findings := [{ kind := .undefined, severity := .warning, arguments := ["age", "get", "/"] }]

/-- Two resources that make their blocks; before a third that does not, they are reported, and what
follows it is not looked at. -/
theorem validateInto_eq_blocks_herd :
    herd.validateInto { resources := [herdBare, herdStray] } {} herdEarlier =
        (.ok [herdMissing], { findings := herdEarlier.findings ++ [herdMissing] }) ∧
      herd.validateInto { resources := [herdBare, herdStray, herdUnreadable, herdBare] } {}
          herdEarlier =
        (.error ⟨0x110000⟩, { findings := herdEarlier.findings ++ [herdMissing] }) := by
  have bare : herd.blockFindings {} herdBare = .ok [herdMissing] := by decide +kernel
  have stray : herd.blockFindings {} herdStray = .ok [] := by decide +kernel
  have unreadable : herd.blockFindings {} herdUnreadable = .error ⟨0x110000⟩ := by decide +kernel
  have made : herd.Makes {} [herdBare, herdStray] [[herdMissing], []] :=
    .cons bare (.cons stray .nil)
  constructor
  · have each : ∀ resource ∈ [herdBare, herdStray], ∃ block,
        herd.blockFindings {} resource = .ok block := by
      intro resource member
      rcases List.mem_pair.mp member with rfl | rfl
      · exact ⟨_, bare⟩
      · exact ⟨_, stray⟩
    obtain ⟨blocks, also, whole, _⟩ :=
      (validateInto_eq_blocks herd {} { resources := [herdBare, herdStray] } herdEarlier).1 each
    have same := Outcome.mapM_eq_ok_iff.mpr also
    rw [Outcome.mapM_eq_ok_iff.mpr made] at same
    cases same
    exact whole
  · exact (validateInto_eq_blocks herd {}
      { resources := [herdBare, herdStray, herdUnreadable, herdBare] } herdEarlier).2
      [herdBare, herdStray] herdUnreadable [herdBare] _ _ rfl made unreadable

end Contract

end ParameterDrift
