import ParameterDrift.Proofs.Reconciliation.Passes
import ParameterDrift.Service
/-! # References written otherwise

A reference matters by the name of the component that it ends in and by nothing else. When all
references of a contract, those among its components included, are written in a way that keeps
these names, each resolves as before, so that a run meets the same parameters. It tells the same
findings and ends with the same fault
(`ParameterDrift.Contract.validate_redirect`); only the references that it tells of as leading
nowhere are the new ones.
-/

namespace ParameterDrift

/-- A way to write references that keeps the names of components they end in. -/
def KeepsNames (write : String → String) : Prop :=
  ∀ ref, Reference.name? (write ref) = Reference.name? ref

variable (write : String → String)

/-! ### The records

In each record the references that it holds are written otherwise, and nothing else. -/

/-- A parameter with its reference written otherwise. -/
def ContractParameter.redirect (parameter : ContractParameter) : ContractParameter :=
  { parameter with ref := parameter.ref.map write }

def Components.redirect (components : Components) : Components :=
  components.map fun (name, parameter) => (name, parameter.redirect write)

def Operation.redirect (operation : Operation) : Operation :=
  { operation with parameters := operation.parameters.map (ContractParameter.redirect write) }

def Contract.redirect (contract : Contract) : Contract :=
  { contract with
    operations := contract.operations.map (Operation.redirect write)
    components := contract.components.redirect write }

def Search.redirect (outcome : Search) : Search :=
  { outcome with dangling := outcome.dangling.map write }

def Report.redirect (report : Report) : Report :=
  { report with dangling := report.dangling.map write }

def Block.redirect : Block → Block
  | .skipped resource => .skipped resource
  | .reconciled operation report => .reconciled (operation.redirect write) (report.redirect write)

def Run.redirect (run : Run) : Run :=
  { run with blocks := run.blocks.map (Block.redirect write) }

variable {write}

/-! ### Resolving and searching -/

@[simp] theorem ContractParameter.ref_redirect (parameter : ContractParameter) :
    (parameter.redirect write).ref = parameter.ref.map write := rfl

/-- A parameter in place has nothing to write otherwise. -/
theorem ContractParameter.redirect_of_ref_none {parameter : ContractParameter}
    (inPlace : parameter.ref = none) : parameter.redirect write = parameter := by
  rw [redirect, inPlace, Option.map_none, ← inPlace]

/-- The components are found under their names, redirected. -/
theorem Components.lookup_redirect (components : Components) (name : String) :
    (components.redirect write).lookup name =
      (components.lookup name).map (ContractParameter.redirect write) := by
  induction components with
  | nil => rfl
  | cons component rest ih =>
    rw [redirect, List.map_cons, List.lookup_cons, List.lookup_cons]
    split
    · rfl
    · exact ih

/-- Written otherwise, a reference leads to the same parameter or again nowhere. -/
theorem ContractParameter.resolve_redirect (keeps : KeepsNames write) (components : Components)
    (entry : ContractParameter) :
    (entry.redirect write).resolve (components.redirect write) =
      (entry.resolve components).mapError write := by
  cases inPlace : entry.ref with
  | none =>
    rw [redirect_of_ref_none inPlace, resolve_of_ref_none inPlace, resolve_of_ref_none inPlace]
    rfl
  | some ref =>
    have written : (entry.redirect write).ref = some (write ref) := by
      rw [ref_redirect, inPlace, Option.map_some]
    simp only [resolve, written, inPlace, keeps ref]
    cases Reference.name? ref with
    | none => rfl
    | some name =>
      simp only [Option.bind_some, Components.lookup_redirect]
      cases components.lookup name with
      | none => rfl
      | some target =>
        cases targetRef : target.ref with
        | none => simp [redirect, targetRef, Except.mapError]
        | some next => simp [redirect, targetRef, Except.mapError]

/-- The search through redirected entries is the search through the entries, redirected. -/
theorem search_redirect (keeps : KeepsNames write) (components : Components) (name : String)
    (spec : List ContractParameter) :
    search (components.redirect write) name (spec.map (ContractParameter.redirect write)) =
      (search components name spec).redirect write := by
  induction spec with
  | nil => rfl
  | cons entry rest ih =>
    rw [List.map_cons, search, ContractParameter.resolve_redirect keeps, ih, search]
    cases entry.resolve components with
    | error ref => rfl
    | ok parameter =>
      change (if _ then _ else _) = Search.redirect write (if _ then _ else _)
      split
      · rfl
      · rfl

/-! ### Reconciling -/

namespace Context

variable (context : Context) (implemented : List ImplementedParameter)
  (spec : List ContractParameter) (components : Components)

/-- A parameter is judged alike against redirected entries. -/
theorem judge_redirect (keeps : KeepsNames write) (own : ImplementedParameter) :
    context.judge (spec.map (ContractParameter.redirect write)) (components.redirect write) own =
      context.judge spec components own := by
  rw [judge, search_redirect keeps]
  rfl

/-- The first pass over redirected entries reports the same. -/
theorem checkImplemented_redirect (keeps : KeepsNames write) :
    context.checkImplemented (spec.map (ContractParameter.redirect write))
        (components.redirect write) implemented =
      (context.checkImplemented spec components implemented).map (Report.redirect write) := by
  have judges : context.judge (spec.map (ContractParameter.redirect write))
      (components.redirect write) = context.judge spec components :=
    funext (context.judge_redirect spec components keeps)
  -- the judgements are the same, so the passes differ in what the searches tell at most
  rw [checkImplemented_eq, checkImplemented_eq, judges]
  cases implemented.mapM (context.judge spec components) with
  | error fault => rfl
  | ok verdicts =>
    simp only [Except.map, Report.redirect, List.map_flatMap, search_redirect keeps,
      Search.redirect]

/-- The second pass over redirected entries reports the same. -/
theorem checkDocumented_redirect (keeps : KeepsNames write) :
    context.checkDocumented implemented (components.redirect write)
        (spec.map (ContractParameter.redirect write)) =
      (context.checkDocumented implemented components spec).redirect write := by
  induction spec with
  | nil => rfl
  | cons entry rest ih =>
    rw [List.map_cons, checkDocumented, ContractParameter.resolve_redirect keeps, ih,
      checkDocumented]
    cases entry.resolve components with
    | error ref => rfl
    | ok parameter => rfl

/-- Reconciling with redirected entries reports the same. -/
theorem reconcile_redirect (keeps : KeepsNames write) :
    context.reconcile implemented (spec.map (ContractParameter.redirect write))
        (components.redirect write) =
      (context.reconcile implemented spec components).map (Report.redirect write) := by
  rw [reconcile, checkImplemented_redirect _ _ _ _ keeps, checkDocumented_redirect _ _ _ _ keeps,
    reconcile]
  cases context.checkImplemented spec components implemented with
  | error fault => rfl
  | ok first => simp only [Except.map, Report.redirect, List.map_append]

end Context

/-! ### Running -/

namespace Contract

variable (contract : Contract)

/-- The operation of a resource is the same, redirected. -/
theorem operation?_redirect (method path : String) :
    (contract.redirect write).operation? method path =
      (contract.operation? method path).map (Operation.redirect write) := by
  rw [operation?, redirect, List.find?_map]
  rfl

/-- The block of a resource is the same, redirected. -/
theorem block_redirect (keeps : KeepsNames write) (settings : Settings) (resource : Resource) :
    (contract.redirect write).block settings resource =
      (contract.block settings resource).map (Block.redirect write) := by
  rw [block, block, operation?_redirect]
  cases contract.operation? resource.method resource.path with
  | none => rfl
  | some operation =>
    simp only [Option.map_some]
    cases resource.implemented with
    | error fault => rfl
    | ok implemented =>
      have same : (settings.context (operation.redirect write) resource).reconcile
          (implemented.map Prod.snd) (operation.redirect write).parameters
          (contract.redirect write).components =
          ((settings.context operation resource).reconcile (implemented.map Prod.snd)
            operation.parameters contract.components).map (Report.redirect write) :=
        (settings.context operation resource).reconcile_redirect _ _ _ keeps
      change ((settings.context (operation.redirect write) resource).reconcile
          (implemented.map Prod.snd) (operation.redirect write).parameters
          (contract.redirect write).components >>= fun report =>
            .ok (.reconciled (operation.redirect write) report)) =
        ((settings.context operation resource).reconcile (implemented.map Prod.snd)
          operation.parameters contract.components >>= fun report =>
            .ok (.reconciled operation report)).map (Block.redirect write)
      rw [same]
      cases (settings.context operation resource).reconcile (implemented.map Prod.snd)
          operation.parameters contract.components with
      | error fault => rfl
      | ok report => rfl

/-- **References written otherwise.** A run over a contract whose references are written in a way
that keeps their names is the same run, but for the references it tells of. -/
theorem validate_redirect (keeps : KeepsNames write) (manifest : Manifest) (settings : Settings) :
    (contract.redirect write).validate manifest settings =
      (contract.validate manifest settings).redirect write :=
  run_map (contract.block_redirect keeps settings) manifest.resources

end Contract

namespace Run

/-- The findings do not tell of references. -/
theorem findings_redirect (run : Run) : (run.redirect write).findings = run.findings := by
  rw [findings, redirect, List.flatMap_map, findings]
  refine List.flatMap_congr ?_
  intro block _
  cases block with
  | skipped resource => rfl
  | reconciled operation report => rfl

/-- A redirected run has the same outcome. -/
theorem outcome_redirect (run : Run) : (run.redirect write).outcome = run.outcome := by
  rw [outcome, findings_redirect, outcome]
  rfl

end Run

end ParameterDrift
