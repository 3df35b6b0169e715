import ParameterDrift.Proofs.Reconciliation.Faults
import ParameterDrift.Proofs.Reconciliation.Fitting
import ParameterDrift.Proofs.Reconciliation.Halves
import ParameterDrift.Proofs.Reconciliation.References
/-! # One more parameter

What changes when a parameter is added to either side is local to its name. An entry added to the
contract settles the findings that its name is undocumented (`ParameterDrift.Settles`), and is
missed itself when nothing implements it. A parameter added to a resource gets its own verdict and
is no longer missed. All other findings stay, in their order
(`ParameterDrift.Context.findings_of_one_more`).
-/

namespace ParameterDrift

/-- **How findings change when a name gets documented.** Each finding that the name is undocumented
goes, or a mismatch of the same parameter takes its place. Every other finding stays. -/
inductive Settles (name : String) : List Finding → List Finding → Prop
  | nil : Settles name [] []
  | kept {finding : Finding} {before after : List Finding}
      (other : ¬ finding.Concerns .undefined name) (later : Settles name before after) :
      Settles name (finding :: before) (finding :: after)
  | accepted {finding : Finding} {before after : List Finding}
      (undocumented : finding.Concerns .undefined name) (later : Settles name before after) :
      Settles name (finding :: before) after
  | mismatched {finding mismatch : Finding} {before after : List Finding}
      (undocumented : finding.Concerns .undefined name)
      (told : mismatch.Concerns .typeMismatch name) (placed : mismatch.location = finding.location)
      (later : Settles name before after) :
      Settles name (finding :: before) (mismatch :: after)

namespace Settles

variable {name : String} {before after : List Finding}

/-- Findings settle when both of their parts do. -/
theorem append {later later' : List Finding} (first : Settles name before after)
    (second : Settles name later later') : Settles name (before ++ later) (after ++ later') := by
  induction first with
  | nil => exact second
  | kept other _ ih => exact .kept other ih
  | accepted undocumented _ ih => exact .accepted undocumented ih
  | mismatched undocumented told placed _ ih => exact .mismatched undocumented told placed ih

/-- Where no finding says that the name is undocumented, all stay. -/
theorem refl_of_others (others : ∀ finding ∈ before, ¬ finding.Concerns .undefined name) :
    Settles name before before := by
  induction before with
  | nil => exact .nil
  | cons finding rest ih =>
    obtain ⟨first, later⟩ := List.forall_mem_cons.mp others
    exact .kept first (ih later)

/-- What changes item by item changes in the whole list. -/
theorem filterMap {α : Type} {items : List α} {old new : α → Option Finding}
    (each : ∀ item ∈ items, Settles name (old item).toList (new item).toList) :
    Settles name (items.filterMap old) (items.filterMap new) := by
  rw [List.filterMap_eq_flatMap_toList, List.filterMap_eq_flatMap_toList]
  induction items with
  | nil => exact .nil
  | cons item rest ih =>
    obtain ⟨first, later⟩ := List.forall_mem_cons.mp each
    rw [List.flatMap_cons, List.flatMap_cons]
    exact first.append (ih later)

end Settles

namespace Context

variable {context : Context} {own : ImplementedParameter} {implemented : List ImplementedParameter}
  {entry parameter : ContractParameter} {spec others : List ContractParameter}
  {components : Components} {name : String} {finding : Finding} {outcome : Option Finding}
  {report report' : Report}

/-! ### One more entry of the contract -/

/-- A search finds in the first of two lists before the second. -/
theorem found_search_append (components : Components) (name : String)
    (spec others : List ContractParameter) :
    (search components name (spec ++ others)).found =
      (search components name spec).found.or (search components name others).found := by
  rw [found_search, found_search, found_search, ContractParameter.resolveAll_append,
    List.find?_append]

/-- Entries that are added do not matter to a parameter that is documented, nor to one that they
do not document. -/
theorem judge_append_eq (idle : Undocumented components own.name spec →
      Undocumented components own.name others) :
    context.judge (spec ++ others) components own = context.judge spec components own := by
  rw [judge, judge, found_search_append]
  cases found : (search components own.name spec).found with
  | some documented => rfl
  | none =>
    have unfound := found_search_eq_none_iff.mpr (idle (found_search_eq_none_iff.mp found))
    rw [unfound]
    rfl

/-- A parameter of which it is said that a name is undocumented has the name, and it is. -/
theorem undocumented_of_judge (judged : context.judge spec components own = .ok (some finding))
    (concerns : finding.Concerns .undefined name) :
    own.name = name ∧ Undocumented components own.name spec := by
  have named : some own.name = some name := (subject?_of_judge judged).symm.trans concerns.2
  exact ⟨Option.some.inj named,
    (isVerdict_of_judge judged).undefined_iff.mp ⟨finding, rfl, concerns.1⟩⟩

/-- An entry that documents a name changes what is said about a parameter only where that is that
the name is undocumented. -/
theorem exists_judge_concat (documents : entry.Documents components name parameter)
    (judged : context.judge spec components own = .ok outcome) :
    ∃ outcome', context.judge (spec ++ [entry]) components own = .ok outcome' ∧
      Settles name outcome.toList outcome'.toList := by
  -- the last entry decides about a parameter only where no entry before it does
  by_cases concerned : own.name = name ∧ Undocumented components own.name spec
  · obtain ⟨rfl, undocumented⟩ := concerned
    have first : FirstDocumented components own.name (spec ++ [entry]) parameter :=
      ⟨spec, entry, [], rfl, documents, undocumented⟩
    rw [judge_eq_of_undocumented undocumented] at judged
    obtain ⟨finding, told, rfl⟩ := Outcome.map_eq_ok_iff.mp judged
    obtain ⟨path, _, rfl⟩ := Outcome.map_eq_ok_iff.mp told
    refine ⟨_, judge_of_firstDocumented first, ?_⟩
    cases TypeName.mismatch? parameter.schema own.declaredType with
    | none => exact .accepted ⟨rfl, rfl⟩ .nil
    | some contractType => exact .mismatched ⟨rfl, rfl⟩ ⟨rfl, rfl⟩ rfl .nil
  · have idle : Undocumented components own.name spec →
        Undocumented components own.name [entry] := by
      intro undocumented other member resolved found
      rw [List.mem_singleton.mp member] at found
      have same := Except.ok.inj (documents.1.symm.trans found.1)
      have named := documents.2.symm.trans (same ▸ found.2)
      exact concerned ⟨(Option.some.inj named).symm, undocumented⟩
    refine ⟨outcome, (judge_append_eq idle).trans judged, Settles.refl_of_others ?_⟩
    intro finding member concerns
    rw [Option.mem_toList] at member
    rw [member] at judged
    exact concerned (undocumented_of_judge judged concerns)

/-- What is missing of an entry is the name that it documents. -/
theorem concerns_of_missing (documents : entry.Documents components name parameter)
    (missed : context.missing implemented components entry = some finding) :
    finding.Concerns .missing name ∧ ∀ own ∈ implemented, own.name ≠ name := by
  obtain ⟨resolved, found, resolves, named, _, absent, rfl⟩ := missing_eq_some_iff.mp missed
  have same : resolved = parameter := Except.ok.inj (resolves.symm.trans documents.1)
  rw [same, documents.2] at named
  cases named
  exact ⟨⟨rfl, rfl⟩, absent⟩

/-- **One more entry of the contract that documents a name.** -/
theorem exists_reconcile_documenting (documents : entry.Documents components name parameter)
    (returned : context.reconcile implemented spec components = .ok report) :
    ∃ report', context.reconcile implemented (spec ++ [entry]) components = .ok report' ∧
      Settles name report.aboutImplemented report'.aboutImplemented ∧
      report'.aboutMissing =
        report.aboutMissing ++ (context.missing implemented components entry).toList := by
  have each : ∀ own ∈ implemented, ∃ outcome',
      context.judge (spec ++ [entry]) components own = .ok outcome' ∧
        Settles name (context.verdict spec components own).toList outcome'.toList :=
    fun own member => exists_judge_concat documents (judge_eq_ok_verdict returned member)
  obtain ⟨report', returned'⟩ := reconcile_eq_ok_iff.mpr fun own member =>
    (each own member).imp fun _ given => given.1
  refine ⟨report', returned', ?_, ?_⟩
  · rw [aboutImplemented_of_reconcile returned, aboutImplemented_of_reconcile returned']
    apply Settles.filterMap
    intro own member
    obtain ⟨outcome', judged, settles⟩ := each own member
    rwa [verdict_of_judge judged]
  · rw [aboutMissing_of_reconcile returned, aboutMissing_of_reconcile returned',
      List.filterMap_append, List.filterMap_eq_flatMap_toList _ [entry], List.flatMap_singleton]

/-- **One more entry of the contract that documents nothing**: one that leads nowhere or to a
parameter without a name. -/
theorem exists_reconcile_idle
    (nameless : ∀ parameter, entry.resolve components = .ok parameter → parameter.name = none)
    (returned : context.reconcile implemented spec components = .ok report) :
    ∃ report', context.reconcile implemented (spec ++ [entry]) components = .ok report' ∧
      report'.findings = report.findings := by
  have idle : ∀ name, Undocumented components name [entry] := by
    intro name other member parameter documents
    rw [List.mem_singleton.mp member] at documents
    exact Option.some_ne_none name (documents.2.symm.trans (nameless parameter documents.1))
  have judged : context.judge (spec ++ [entry]) components = context.judge spec components :=
    funext fun own => judge_append_eq fun _ => idle own.name
  have unmissed : context.missing implemented components entry = none := by
    rw [Option.eq_none_iff_forall_ne_some]
    intro finding missed
    obtain ⟨parameter, name, resolves, named, _⟩ := missing_eq_some_iff.mp missed
    rw [nameless parameter resolves] at named
    cases named
  obtain ⟨report', returned'⟩ := reconcile_eq_ok_iff.mpr fun own member =>
    ⟨_, (congrFun judged own).trans (judge_eq_ok_verdict returned member)⟩
  refine ⟨report', returned', ?_⟩
  rw [findings_of_reconcile returned, findings_of_reconcile returned', verdict_congr judged,
    List.filterMap_append, List.filterMap_cons_none unmissed, List.filterMap_nil, List.append_nil]

/-! ### One more implemented parameter -/

/-- What is missing is missing still, unless the parameter that is added has its name. -/
theorem isMissing_concat_iff : context.IsMissing (implemented ++ [own]) components entry finding ↔
    context.IsMissing implemented components entry finding ∧
      ¬ finding.Concerns .missing own.name := by
  constructor
  · rintro ⟨parameter, name, resolves, named, required, absent, rfl⟩
    have before : ∀ other ∈ implemented, other.name ≠ name :=
      fun other member => absent other (List.mem_append_left _ member)
    refine ⟨⟨parameter, name, resolves, named, required, before, rfl⟩, ?_⟩
    rintro ⟨_, subject⟩
    exact absent own (List.mem_append_right _ List.mem_cons_self) (Option.some.inj subject).symm
  · rintro ⟨⟨parameter, name, resolves, named, required, absent, rfl⟩, unconcerned⟩
    refine ⟨parameter, name, resolves, named, required, ?_, rfl⟩
    intro other member same
    rcases List.mem_append.mp member with before | last
    · exact absent other before same
    · rw [List.mem_singleton.mp last] at same
      exact unconcerned ⟨rfl, congrArg some same.symm⟩

/-- One more implemented parameter takes away the findings that miss it. -/
theorem missing_concat (context : Context) (implemented : List ImplementedParameter)
    (components : Components) (own : ImplementedParameter) (entry : ContractParameter) :
    context.missing (implemented ++ [own]) components entry =
      (context.missing implemented components entry).filter fun finding =>
        ¬ finding.Concerns .missing own.name := by
  apply Option.ext
  intro finding
  rw [missing_eq_some_iff, isMissing_concat_iff, Option.filter_eq_some_iff, missing_eq_some_iff,
    decide_eq_true_eq]

/-- **One more implemented parameter.** -/
theorem exists_reconcile_implementing
    (returned' : context.reconcile (implemented ++ [own]) spec components = .ok report') :
    ∃ report, context.reconcile implemented spec components = .ok report ∧
      report'.aboutImplemented =
        report.aboutImplemented ++ (context.verdict spec components own).toList ∧
      report'.aboutMissing =
        report.aboutMissing.filter fun finding => ¬ finding.Concerns .missing own.name := by
  obtain ⟨report, returned⟩ := reconcile_eq_ok_iff.mpr fun other member =>
    ⟨_, judge_eq_ok_verdict returned' (List.mem_append_left [own] member)⟩
  refine ⟨report, returned, ?_, ?_⟩
  · rw [aboutImplemented_of_reconcile returned, aboutImplemented_of_reconcile returned',
      List.filterMap_append, List.filterMap_eq_flatMap_toList _ [own], List.flatMap_singleton]
  · rw [aboutMissing_of_reconcile returned, aboutMissing_of_reconcile returned',
      List.filter_filterMap]
    exact List.filterMap_congr fun entry _ => missing_concat context implemented components own entry

/-! ### Both -/

/-- **One more parameter is a local change.** An entry that is added to the contract and documents
a name settles the findings that the name is undocumented. It adds at most one finding, at the end:
that its name is missing, when nothing implements it. An entry that documents nothing changes
nothing. A parameter that is added to a resource adds at most one finding, behind those about the
parameters before it, and removes exactly those that its name is missing. -/
theorem findings_of_one_more (context : Context) (implemented : List ImplementedParameter)
    (spec : List ContractParameter) (components : Components) :
    (∀ (entry parameter : ContractParameter) (name : String) (report : Report),
      entry.resolve components = .ok parameter → parameter.name = some name →
        context.reconcile implemented spec components = .ok report →
          ∃ (report' : Report) (added : Option Finding),
            context.reconcile implemented (spec ++ [entry]) components = .ok report' ∧
            report.findings = report.aboutImplemented ++ report.aboutMissing ∧
            report'.findings =
              report'.aboutImplemented ++ report.aboutMissing ++ added.toList ∧
            Settles name report.aboutImplemented report'.aboutImplemented ∧
            ∀ finding ∈ added, finding.Concerns .missing name ∧
              ∀ own ∈ implemented, own.name ≠ name) ∧
      (∀ (entry : ContractParameter) (report : Report),
        (∀ parameter, entry.resolve components = .ok parameter → parameter.name = none) →
          context.reconcile implemented spec components = .ok report →
            ∃ report', context.reconcile implemented (spec ++ [entry]) components = .ok report' ∧
              report'.findings = report.findings) ∧
      ∀ (own : ImplementedParameter) (report' : Report),
        context.reconcile (implemented ++ [own]) spec components = .ok report' →
          ∃ (report : Report) (added : Option Finding),
            context.reconcile implemented spec components = .ok report ∧
            report.findings = report.aboutImplemented ++ report.aboutMissing ∧
            report'.findings = report.aboutImplemented ++ added.toList ++
              report.aboutMissing.filter (fun finding => ¬ finding.Concerns .missing own.name) ∧
            ∀ finding ∈ added, finding.kind ≠ .missing ∧ finding.subject? = some own.name ∧
              finding.location = some own.location := by
  refine ⟨?_, ?_, ?_⟩
  · intro entry parameter name report resolves named returned
    obtain ⟨report', returned', settles, missing⟩ :=
      exists_reconcile_documenting ⟨resolves, named⟩ returned
    refine ⟨report', context.missing implemented components entry, returned',
      findings_eq_halves returned, ?_, settles, ?_⟩
    · rw [List.append_assoc, ← missing]
      exact findings_eq_halves returned'
    · exact fun finding missed => concerns_of_missing ⟨resolves, named⟩ missed
  · intro entry report nameless returned
    exact exists_reconcile_idle nameless returned
  · intro own report' returned'
    obtain ⟨report, returned, verdicts, missing⟩ := exists_reconcile_implementing returned'
    refine ⟨report, context.verdict spec components own, returned, findings_eq_halves returned,
      ?_, ?_⟩
    · rw [← verdicts, ← missing]
      exact findings_eq_halves returned'
    · intro finding found
      have judged := judge_of_verdict found
      exact ⟨kind_ne_missing_of_verdict found, subject?_of_judge judged,
        ((isVerdict_of_judge judged).placed finding rfl).2.1⟩

/-- The context of the walks. -/
def walks : Context where
  method := "get"
  path := "/walks"

/-- What is documented of walks. -/
def walkSpec : List ContractParameter :=
  [{ name := some "limit", location := some "query", schema := some { type := some "integer" } },
    { name := some "offset", location := some "query", schema := some { type := some "integer" } }]

/-- What is implemented of walks: a parameter that is documented and one that is not. -/
def walkParameters : List ImplementedParameter :=
  [{ name := "limit", declaredType := "int", form := .required },
    { name := "debug", declaredType := "boolean", form := .defaultable }]

/-- What is found about walks: one parameter is undocumented, one is missing. -/
def walkReport : Report where
  findings :=
    [{ kind := .undefined, severity := .error, location := some {},
       arguments := ["debug", "get", "/walks"] },
      { kind := .missing, severity := .error, arguments := ["offset", "get", "/walks"] }]

/-- The entry that documents the undocumented parameter, with another type. -/
def debugEntry : ContractParameter where
  name := some "debug"
  schema := some { type := some "string" }

/-- The parameter that is missing. -/
def offsetParameter : ImplementedParameter where
  name := "offset"
  declaredType := "int"
  form := .required

/-- To document the one turns its finding into a mismatch, a reference that leads nowhere changes
nothing, and to implement the other takes its finding away. -/
theorem findings_of_one_more_walk :
    walks.reconcile walkParameters walkSpec [] = .ok walkReport ∧
      (∃ report', walks.reconcile walkParameters (walkSpec ++ [debugEntry]) [] = .ok report' ∧
        Settles "debug" walkReport.aboutImplemented report'.aboutImplemented ∧
        report'.findings.map Finding.kind = [.typeMismatch, .missing]) ∧
      (∃ report', walks.reconcile walkParameters (walkSpec ++ [{ ref := some "#/gone" }]) [] =
          .ok report' ∧ report'.findings = walkReport.findings) ∧
      ∃ (report' : Report) (added : Option Finding),
        walks.reconcile (walkParameters ++ [offsetParameter]) walkSpec [] = .ok report' ∧
        report'.findings = walkReport.aboutImplemented ++ added.toList := by
  have returned : walks.reconcile walkParameters walkSpec [] = .ok walkReport := by
    decide +kernel
  have nowhere : ∀ parameter : ContractParameter,
      ContractParameter.resolve [] { ref := some "#/gone" } = .ok parameter →
        parameter.name = none := by
    intro parameter resolves
    have failed : ContractParameter.resolve [] { ref := some "#/gone" } = .error "#/gone" := by
      decide +kernel
    cases failed.symm.trans resolves
  obtain ⟨documenting, idle, implementing⟩ :=
    findings_of_one_more walks walkParameters walkSpec []
  refine ⟨returned, ?_, idle _ _ nowhere returned, ?_⟩
  · obtain ⟨report', _, returned', _, _, settles, _⟩ :=
      documenting debugEntry debugEntry "debug" walkReport rfl rfl returned
    refine ⟨report', returned', settles, ?_⟩
    have kinds : (walks.reconcile walkParameters (walkSpec ++ [debugEntry]) []).map
        (fun report => report.findings.map Finding.kind) = .ok [.typeMismatch, .missing] := by
      decide +kernel
    rw [returned'] at kinds
    exact Except.ok.inj kinds
  · have afterwards : ∃ report', walks.reconcile (walkParameters ++ [offsetParameter]) walkSpec [] =
        .ok report' := ⟨{ findings := walkReport.aboutImplemented }, by decide +kernel⟩
    obtain ⟨report', returned'⟩ := afterwards
    obtain ⟨report, added, before, _, findings, _⟩ := implementing offsetParameter _ returned'
    cases before.symm.trans returned
    have gone : walkReport.aboutMissing.filter
        (fun finding => ¬ finding.Concerns .missing offsetParameter.name) = [] := by
      decide
    rw [gone, List.append_nil] at findings
    exact ⟨report', added, returned', findings⟩

end Context

end ParameterDrift
