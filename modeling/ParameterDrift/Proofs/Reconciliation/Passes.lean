import ParameterDrift.Proofs.Outcome
import ParameterDrift.Reconciliation
/-! # The two passes of a reconciliation

The first pass judges every implemented parameter by the first entry of the contract that resolves
to its name, the second every entry by the names that are implemented. Neither looks at what it
said before, so each is a map over its list
(`ParameterDrift.Context.checkImplemented_eq`, `ParameterDrift.Context.findings_of_reconcile`), and
the search of the first is told by what comes before the entry it stops at
(`ParameterDrift.found_search_eq_some_iff`).
-/

namespace ParameterDrift

/-! ### The search for a name -/

/-- An entry of a contract documents a name by a parameter when it resolves to that parameter and
the parameter has the name. -/
def ContractParameter.Documents (components : Components) (name : String)
    (entry parameter : ContractParameter) : Prop :=
  entry.resolve components = .ok parameter ∧ parameter.name = some name

/-- No entry of a contract documents a name. -/
def Undocumented (components : Components) (name : String) (spec : List ContractParameter) : Prop :=
  ∀ entry ∈ spec, ∀ parameter, ¬ entry.Documents components name parameter

/-- The first entry of a contract that documents a name does so by this parameter. -/
def FirstDocumented (components : Components) (name : String) (spec : List ContractParameter)
    (parameter : ContractParameter) : Prop :=
  ∃ before entry after, spec = before ++ entry :: after ∧
    entry.Documents components name parameter ∧ Undocumented components name before

section Search

variable {components : Components} {name : String} {entry parameter : ContractParameter}
  {spec : List ContractParameter}

/-- A name is undocumented when no entry documents it. -/
theorem undocumented_cons_iff :
    Undocumented components name (entry :: spec) ↔
      (∀ parameter, ¬ entry.Documents components name parameter) ∧
        Undocumented components name spec :=
  List.forall_mem_cons

/-- An entry that documents the name is the first when it stands in front. -/
theorem firstDocumented_cons_iff_of_documents {found : ContractParameter}
    (documents : entry.Documents components name found) :
    FirstDocumented components name (entry :: spec) parameter ↔ found = parameter := by
  constructor
  · intro given
    obtain ⟨before, decisive, after, split, ownDocuments, earlier⟩ := given
    cases before with
    | nil =>
      rw [List.nil_append, List.cons.injEq] at split
      obtain ⟨rfl, _⟩ := split
      exact Except.ok.inj (documents.1.symm.trans ownDocuments.1)
    | cons first before =>
      rw [List.cons_append, List.cons.injEq] at split
      exact absurd documents (split.1 ▸ (undocumented_cons_iff.mp earlier).1 found)
  · rintro rfl
    exact ⟨[], entry, spec, rfl, documents, fun _ member => absurd member List.not_mem_nil⟩

/-- An entry that documents another name is passed over. -/
theorem firstDocumented_cons_iff_of_not
    (skipped : ∀ other, ¬ entry.Documents components name other) :
    FirstDocumented components name (entry :: spec) parameter ↔
      FirstDocumented components name spec parameter := by
  constructor
  · intro given
    obtain ⟨before, decisive, after, split, documents, earlier⟩ := given
    cases before with
    | nil =>
      rw [List.nil_append, List.cons.injEq] at split
      exact absurd (split.1 ▸ documents) (skipped parameter)
    | cons first before =>
      rw [List.cons_append, List.cons.injEq] at split
      exact ⟨before, decisive, after, split.2, documents, (undocumented_cons_iff.mp earlier).2⟩
  · intro given
    obtain ⟨before, decisive, after, rfl, documents, earlier⟩ := given
    exact ⟨entry :: before, decisive, after, rfl, documents,
      undocumented_cons_iff.mpr ⟨skipped, earlier⟩⟩

/-- What documents a name is written in place and has the name. -/
theorem FirstDocumented.plain (first : FirstDocumented components name spec parameter) :
    parameter.ref = none ∧ parameter.name = some name := by
  obtain ⟨_, decisive, _, _, documents, _⟩ := first
  exact ⟨ContractParameter.ref_of_resolve documents.1, documents.2⟩

/-- The search finds the first entry if it documents the name. -/
theorem found_search_cons_of_documents
    (documents : entry.Documents components name parameter) :
    (search components name (entry :: spec)).found = some parameter := by
  simp [search, documents.1, documents.2]

/-- The search goes on behind an entry that does not document the name. -/
theorem found_search_cons_of_not
    (skipped : ∀ other, ¬ entry.Documents components name other) :
    (search components name (entry :: spec)).found = (search components name spec).found := by
  cases outcome : entry.resolve components with
  | error ref => simp [search, outcome]
  | ok resolved =>
    have unnamed : resolved.name ≠ some name := fun named => skipped resolved ⟨outcome, named⟩
    simp [search, outcome, unnamed]

/-- **What the search finds.** It finds a parameter when the first entry that documents the name
does so by it. -/
theorem found_search_eq_some_iff :
    (search components name spec).found = some parameter ↔
      FirstDocumented components name spec parameter := by
  induction spec with
  | nil =>
    constructor
    · intro found
      cases found
    · intro given
      obtain ⟨before, entry, after, split, _⟩ := given
      simp at split
  | cons entry rest ih =>
    -- an entry that documents the name ends the search, any other is passed over
    by_cases documents : ∃ found, entry.Documents components name found
    · obtain ⟨found, documents⟩ := documents
      rw [found_search_cons_of_documents documents, Option.some.injEq,
        firstDocumented_cons_iff_of_documents documents]
    · have skipped : ∀ other, ¬ entry.Documents components name other :=
        fun other documented => documents ⟨other, documented⟩
      rw [found_search_cons_of_not skipped, firstDocumented_cons_iff_of_not skipped, ih]

/-- The search finds nothing when no entry documents the name. -/
theorem found_search_eq_none_iff :
    (search components name spec).found = none ↔ Undocumented components name spec := by
  induction spec with
  | nil => exact ⟨fun _ _ member => absurd member List.not_mem_nil, fun _ => rfl⟩
  | cons entry rest ih =>
    rw [undocumented_cons_iff]
    by_cases documents : ∃ found, entry.Documents components name found
    · obtain ⟨found, documents⟩ := documents
      rw [found_search_cons_of_documents documents]
      exact ⟨fun absent => absurd absent (Option.some_ne_none found),
        fun undocumented => absurd documents (undocumented.1 found)⟩
    · have skipped : ∀ other, ¬ entry.Documents components name other :=
        fun other documented => documents ⟨other, documented⟩
      rw [found_search_cons_of_not skipped, ih]
      exact ⟨fun later => ⟨skipped, later⟩, fun both => both.2⟩

end Search

namespace Context

variable {context : Context} {implemented : List ImplementedParameter}
  {spec : List ContractParameter} {components : Components} {report : Report}

/-! ### The first pass -/

/-- The judgement of one implemented parameter, which may fail. -/
def judge (context : Context) (spec : List ContractParameter) (components : Components)
    (own : ImplementedParameter) : Except Identifier.CodePointFault (Option Finding) :=
  context.findingFor own (search components own.name spec).found

/-- The finding about an implemented parameter, if there is one. -/
def verdict (context : Context) (spec : List ContractParameter) (components : Components)
    (own : ImplementedParameter) : Option Finding :=
  (context.judge spec components own).toOption.join

/-- The verdict is what a judgement that returns says. -/
theorem verdict_of_judge {own : ImplementedParameter} {outcome : Option Finding}
    (judged : context.judge spec components own = .ok outcome) :
    context.verdict spec components own = outcome := by
  rw [verdict, judged]
  rfl

/-- A verdict that finds something is a judgement that returns. -/
theorem judge_of_verdict {own : ImplementedParameter} {finding : Finding}
    (found : context.verdict spec components own = some finding) :
    context.judge spec components own = .ok (some finding) := by
  rw [verdict] at found
  cases judged : context.judge spec components own with
  | error fault =>
    rw [judged] at found
    cases found
  | ok outcome =>
    rw [judged] at found
    exact congrArg Except.ok found

/-- Equal judgements give equal verdicts. -/
theorem verdict_congr {spec' : List ContractParameter}
    (same : context.judge spec components = context.judge spec' components) :
    context.verdict spec components = context.verdict spec' components := by
  funext own
  rw [verdict, verdict, same]

/-- **The first pass is a map.** It judges the implemented parameters one by one, and fails when a
judgement does. -/
theorem checkImplemented_eq (context : Context) (spec : List ContractParameter)
    (components : Components) (implemented : List ImplementedParameter) :
    context.checkImplemented spec components implemented =
      (implemented.mapM (context.judge spec components)).map fun verdicts =>
        { findings := verdicts.flatMap Option.toList
          dangling := implemented.flatMap fun own => (search components own.name spec).dangling } := by
  induction implemented with
  | nil => rfl
  | cons own rest ih =>
    rw [List.mapM_cons, checkImplemented, ih]
    change (context.judge spec components own >>= fun _ => _) = _
    cases context.judge spec components own with
    | error fault => rfl
    | ok finding =>
      cases rest.mapM (context.judge spec components) with
      | error fault => rfl
      | ok verdicts => rfl

/-- When the judgements of some parameters are given in order, the findings among them are the
verdicts. -/
theorem flatMap_toList_eq_filterMap_verdict {verdicts : List (Option Finding)}
    (judged : List.Forall₂ (fun own finding => context.judge spec components own = .ok finding)
      implemented verdicts) :
    verdicts.flatMap Option.toList = implemented.filterMap (context.verdict spec components) := by
  induction judged with
  | nil => rfl
  | @cons own finding rest later first _ ih =>
    rw [List.flatMap_cons, List.filterMap_cons, verdict_of_judge first, ih]
    cases finding with
    | none => rfl
    | some finding => rfl

/-! ### The second pass -/

/-- The finding about an entry of the contract, if there is one. -/
def missing (context : Context) (implemented : List ImplementedParameter) (components : Components)
    (entry : ContractParameter) : Option Finding :=
  ((entry.resolve components).toOption.bind (context.missed? implemented)).map context.missingFinding

/-- The second pass judges the entries one by one. -/
theorem findings_checkDocumented_eq (context : Context) (implemented : List ImplementedParameter)
    (components : Components) (spec : List ContractParameter) :
    (context.checkDocumented implemented components spec).findings =
      spec.filterMap (context.missing implemented components) := by
  rw [findings_checkDocumented, ContractParameter.resolveAll, List.filterMap_filterMap,
    List.map_filterMap]
  rfl

/-! ### Both passes -/

/-- A reconciliation returns when every judgement does. -/
theorem reconcile_eq_ok_iff :
    (∃ report, context.reconcile implemented spec components = .ok report) ↔
      ∀ own ∈ implemented, ∃ finding, context.judge spec components own = .ok finding := by
  rw [reconcile, Outcome.exists_map_eq_ok_iff, checkImplemented_eq, Outcome.exists_map_eq_ok_iff,
    Outcome.exists_mapM_eq_ok_iff]

/-- **The findings of a reconciliation** are the verdicts on the implemented parameters, in order,
and after them the findings about the entries of the contract, in order. -/
theorem findings_of_reconcile
    (returned : context.reconcile implemented spec components = .ok report) :
    report.findings = implemented.filterMap (context.verdict spec components) ++
      spec.filterMap (context.missing implemented components) := by
  obtain ⟨first, passed, rfl⟩ := Outcome.map_eq_ok_iff.mp returned
  rw [checkImplemented_eq] at passed
  obtain ⟨verdicts, judged, rfl⟩ := Outcome.map_eq_ok_iff.mp passed
  change verdicts.flatMap Option.toList ++ _ = _
  rw [flatMap_toList_eq_filterMap_verdict (Outcome.mapM_eq_ok_iff.mp judged),
    findings_checkDocumented_eq]

/-- In a reconciliation that returns, every judgement is its verdict. -/
theorem judge_eq_ok_verdict (returned : context.reconcile implemented spec components = .ok report)
    {own : ImplementedParameter} (member : own ∈ implemented) :
    context.judge spec components own = .ok (context.verdict spec components own) := by
  obtain ⟨finding, judged⟩ := reconcile_eq_ok_iff.mp ⟨report, returned⟩ own member
  rw [verdict_of_judge judged]
  exact judged

end Context

end ParameterDrift
