import ParameterDrift.Proofs.Reconciliation.Passes
/-! # What a reconciliation tells

Every finding of a reconciliation has one cause, and every cause has its finding. An implemented
parameter is reported when nothing documents its name, or when the first entry that does is
incompatible with it; no later entry counts. An entry of the contract is reported when it resolves
to a parameter that has a name, needs an implementation and has none
(`ParameterDrift.Context.exists_verdicts_of_reconcile`). Nothing else is reported, and the order is
that of the two lists.
-/

namespace ParameterDrift.Context

variable {context : Context} {own : ImplementedParameter} {implemented : List ImplementedParameter}
  {documented entry : ContractParameter} {spec : List ContractParameter} {components : Components}
  {outcome : Option Finding} {report : Report}

/-- Two parameters are incompatible when the reconciliation of the two alone reports a mismatch. -/
def Incompatible (context : Context) (own : ImplementedParameter)
    (documented : ContractParameter) : Prop :=
  ∃ report, context.reconcile [own] [documented] [] = .ok report ∧
    ∃ finding ∈ report.findings, finding.kind = .typeMismatch

/-- **The verdict on an implemented parameter.** At most one finding, at the place of its
declaration: that no entry documents its name, or that the first entry that does is incompatible
with it. -/
structure IsVerdict (context : Context) (spec : List ContractParameter) (components : Components)
    (own : ImplementedParameter) (outcome : Option Finding) : Prop where
  placed : ∀ finding ∈ outcome, finding.severity = context.severity ∧
    finding.location = some own.location ∧
      (finding.kind = .undefined ∨ finding.kind = .typeMismatch)
  undefined_iff : (∃ finding ∈ outcome, finding.kind = .undefined) ↔
    Undocumented components own.name spec
  undefined_arguments : ∀ finding ∈ outcome, finding.kind = .undefined →
    ∃ shown, DisplayPath.ofString context.path = .ok shown ∧
      finding.arguments = [own.name, context.method, shown]
  mismatch_iff : (∃ finding ∈ outcome, finding.kind = .typeMismatch) ↔
    ∃ documented, FirstDocumented components own.name spec documented ∧
      context.Incompatible own documented
  mismatch_arguments : ∀ finding ∈ outcome, finding.kind = .typeMismatch →
    ∃ contractType, finding.arguments =
      [contractType, own.declaredType, own.name, context.method, context.path]
  mismatch_alone : ∀ finding ∈ outcome, finding.kind = .typeMismatch →
    ∀ documented, FirstDocumented components own.name spec documented →
      ∃ alone, context.reconcile [own] [documented] [] = .ok alone ∧ alone.findings = [finding]

/-- The finding about an entry of the contract: it resolves to a parameter that has a name, whose
location is not exempt and whose name nothing implements. -/
def IsMissing (context : Context) (implemented : List ImplementedParameter)
    (components : Components) (entry : ContractParameter) (finding : Finding) : Prop :=
  ∃ parameter name, entry.resolve components = .ok parameter ∧ parameter.name = some name ∧
    Text.lowerString (parameter.location.getD "") ∉ context.exempt ∧
      (∀ own ∈ implemented, own.name ≠ name) ∧
        finding =
          { kind := .missing
            severity := context.severity
            location := context.location
            arguments := [name, context.method, context.path] }

/-! ### Implemented parameters -/

/-- Of two parameters of one name alone, nothing is reported but a mismatch of their types. -/
theorem reconcile_alone (plain : documented.ref = none) (named : documented.name = some own.name) :
    context.reconcile [own] [documented] [] =
      .ok
        { findings := ((TypeName.mismatch? documented.schema own.declaredType).map
            (context.mismatchFinding own)).toList } := by
  have resolved : documented.resolve [] = .ok documented :=
    ContractParameter.resolve_of_ref_none plain
  have found : search [] own.name [documented] = { found := some documented } := by
    simp only [search, resolved, named, ↓reduceIte]
  have implementedByOwn : context.missed? [own] documented = none := by
    simp [missed?, named]
  simp [reconcile, checkImplemented, found, findingFor, checkDocumented, resolved,
    implementedByOwn, Except.map, bind, Except.bind]

/-- The two alone are incompatible when their types do not fit. -/
theorem incompatible_iff (plain : documented.ref = none)
    (named : documented.name = some own.name) :
    context.Incompatible own documented ↔
      (TypeName.mismatch? documented.schema own.declaredType).isSome := by
  rw [Incompatible, reconcile_alone plain named]
  cases TypeName.mismatch? documented.schema own.declaredType with
  | none => simp
  | some contractType => simp [mismatchFinding]

/-- On an undocumented parameter the verdict is the undefined finding. -/
theorem isVerdict_of_undocumented {finding : Finding}
    (undocumented : Undocumented components own.name spec)
    (judged : context.undefinedFinding own = .ok finding) :
    context.IsVerdict spec components own (some finding) := by
  obtain ⟨shown, path, rfl⟩ := Outcome.map_eq_ok_iff.mp judged
  have notFirst : ∀ documented, ¬ FirstDocumented components own.name spec documented := by
    rintro documented ⟨before, entry, after, rfl, documents, _⟩
    exact undocumented entry (by simp) documented documents
  constructor
  · rintro finding ⟨⟩
    exact ⟨rfl, rfl, Or.inl rfl⟩
  · exact ⟨fun _ => undocumented, fun _ => ⟨_, rfl, rfl⟩⟩
  · rintro finding ⟨⟩ _
    exact ⟨shown, path, rfl⟩
  · constructor
    · intro given
      obtain ⟨finding, ⟨⟩, ⟨⟩⟩ := given
    · intro given
      obtain ⟨documented, first, _⟩ := given
      exact absurd first (notFirst documented)
  · rintro finding ⟨⟩ ⟨⟩
  · rintro finding ⟨⟩ ⟨⟩

/-- On a documented parameter the verdict is the mismatch, if there is one. -/
theorem isVerdict_of_firstDocumented
    (first : FirstDocumented components own.name spec documented) :
    context.IsVerdict spec components own
      ((TypeName.mismatch? documented.schema own.declaredType).map
        (context.mismatchFinding own)) := by
  obtain ⟨plain, named⟩ := first.plain
  have documentedOnce : ¬ Undocumented components own.name spec := by
    intro undocumented
    obtain ⟨before, entry, after, rfl, documents, _⟩ := first
    exact undocumented entry (by simp) documented documents
  have decisive : ∀ other, FirstDocumented components own.name spec other → other = documented := by
    intro other also
    rw [← found_search_eq_some_iff] at first also
    exact Option.some.inj (also.symm.trans first)
  have mismatched : ∀ finding ∈ (TypeName.mismatch? documented.schema own.declaredType).map
      (context.mismatchFinding own), finding.kind = .typeMismatch := by
    intro finding member
    obtain ⟨contractType, _, rfl⟩ := Option.map_eq_some_iff.mp member
    rfl
  constructor
  · intro finding member
    obtain ⟨contractType, _, rfl⟩ := Option.map_eq_some_iff.mp member
    exact ⟨rfl, rfl, Or.inr rfl⟩
  · constructor
    · intro given
      obtain ⟨finding, member, kind⟩ := given
      rw [mismatched finding member] at kind
      cases kind
    · intro undocumented
      exact absurd undocumented documentedOnce
  · intro finding member kind
    rw [mismatched finding member] at kind
    cases kind
  · constructor
    · intro given
      obtain ⟨finding, member, _⟩ := given
      obtain ⟨contractType, found, _⟩ := Option.map_eq_some_iff.mp member
      exact ⟨documented, first, (incompatible_iff plain named).mpr (by rw [found]; rfl)⟩
    · intro given
      obtain ⟨other, also, incompatible⟩ := given
      rw [decisive other also, incompatible_iff plain named] at incompatible
      obtain ⟨contractType, found⟩ := Option.isSome_iff_exists.mp incompatible
      exact ⟨context.mismatchFinding own contractType, by rw [found]; rfl, rfl⟩
  · intro finding member _
    obtain ⟨contractType, _, rfl⟩ := Option.map_eq_some_iff.mp member
    exact ⟨contractType, rfl⟩
  · intro finding member _ other also
    rw [decisive other also, reconcile_alone plain named]
    rw [Option.mem_def] at member
    exact ⟨_, rfl, by rw [member]; rfl⟩

/-- Every judgement is a verdict. -/
theorem isVerdict_of_judge (judged : context.judge spec components own = .ok outcome) :
    context.IsVerdict spec components own outcome := by
  rw [judge] at judged
  cases found : (search components own.name spec).found with
  | none =>
    rw [found] at judged
    obtain ⟨finding, undefined, rfl⟩ := Outcome.map_eq_ok_iff.mp judged
    exact isVerdict_of_undocumented (found_search_eq_none_iff.mp found) undefined
  | some documented =>
    rw [found] at judged
    rw [← Except.ok.inj judged]
    exact isVerdict_of_firstDocumented (found_search_eq_some_iff.mp found)

/-! ### Entries of the contract -/

/-- The second pass reports of an entry exactly that it is missing. -/
theorem missing_eq_some_iff {finding : Finding} :
    context.missing implemented components entry = some finding ↔
      context.IsMissing implemented components entry finding := by
  rw [missing, Option.map_eq_some_iff]
  constructor
  · intro given
    obtain ⟨name, missed, rfl⟩ := given
    obtain ⟨parameter, resolved, missed⟩ := Option.bind_eq_some_iff.mp missed
    have resolves : entry.resolve components = .ok parameter := by
      cases outcome : entry.resolve components with
      | error ref => simp [outcome, Except.toOption] at resolved
      | ok other =>
        rw [outcome] at resolved
        rw [Option.some.inj resolved]
    cases named : parameter.name with
    | none => simp [missed?, named] at missed
    | some other =>
      simp only [missed?, named, isExempt, Bool.or_eq_true, List.contains_eq_mem,
        decide_eq_true_eq, List.any_eq_true, beq_iff_eq, Option.ite_none_left_eq_some, not_or,
        not_exists, not_and, Option.some.injEq] at missed
      obtain ⟨⟨required, absent⟩, rfl⟩ := missed
      exact ⟨parameter, other, resolves, named, required, absent, rfl⟩
  · intro given
    obtain ⟨parameter, name, resolves, named, required, absent, rfl⟩ := given
    refine ⟨name, ?_, rfl⟩
    have unimplemented : (implemented.any fun own => own.name == name) = false := by
      rw [List.any_eq_false]
      intro own member
      rw [beq_iff_eq]
      exact absent own member
    simp [resolves, Except.toOption, missed?, named, isExempt, required, unimplemented]

/-! ### The whole -/

/-- **The findings of a reconciliation are exactly the inconsistencies.** First come the verdicts on
the implemented parameters in their order, then the entries of the contract that are missed in
theirs. -/
theorem exists_verdicts_of_reconcile
    (returned : context.reconcile implemented spec components = .ok report) :
    ∃ (verdict : ImplementedParameter → Option Finding)
      (missing : ContractParameter → Option Finding),
      report.findings = implemented.filterMap verdict ++ spec.filterMap missing ∧
      (∀ own ∈ implemented, context.IsVerdict spec components own (verdict own)) ∧
      ∀ entry ∈ spec, ∀ finding, missing entry = some finding ↔
        context.IsMissing implemented components entry finding := by
  refine ⟨context.verdict spec components, context.missing implemented components,
    findings_of_reconcile returned, ?_, ?_⟩
  · intro own member
    exact isVerdict_of_judge (judge_eq_ok_verdict returned member)
  · intro entry _ finding
    exact missing_eq_some_iff

/-- The entries of an operation: references that lead nowhere and to a component, a doubled name, an
exempt location and a name that nothing implements. -/
def petSpec : List ContractParameter :=
  [{ ref := some "#/components/parameters/gone" }, { ref := some "#/components/parameters/tags" },
    { name := some "limit", schema := some { type := some "integer" } },
    { name := some "limit", schema := some { type := some "string" } },
    { name := some "trace", location := some "Header" }, { name := some "offset" }]

/-- The component that the entries refer to. -/
def petComponents : Components :=
  [("tags",
    { location := some "query"
      schema := some { type := some "array", items := some { type := some "string" } } })]

/-- The parameters of a resource: one that fits, one of another type and one that is not
documented. -/
def petParameters : List ImplementedParameter :=
  [{ name := "tags", declaredType := "string[]", form := .required },
    { name := "limit", declaredType := "string", form := .required },
    { name := "debug", declaredType := "boolean", form := .defaultable }]

/-- Of the pets' parameters one is mismatched, one undefined and one missing. -/
theorem exists_verdicts_of_pets :
    ∃ report, ({ method := "get", path := "/pets" } : Context).reconcile petParameters petSpec
        petComponents = .ok report ∧
      report.findings.map Finding.kind = [.typeMismatch, .undefined, .missing] ∧
      ∃ (verdict : ImplementedParameter → Option Finding)
        (missing : ContractParameter → Option Finding),
        report.findings = petParameters.filterMap verdict ++ petSpec.filterMap missing ∧
        (∀ own ∈ petParameters, ({ method := "get", path := "/pets" } : Context).IsVerdict petSpec
          petComponents own (verdict own)) ∧
        ∀ entry ∈ petSpec, ∀ finding, missing entry = some finding ↔
          ({ method := "get", path := "/pets" } : Context).IsMissing petParameters petComponents
            entry finding := by
  have returned : ({ method := "get", path := "/pets" } : Context).reconcile petParameters petSpec
      petComponents = .ok
        { findings :=
            [{ kind := .typeMismatch, severity := .error, location := some {},
               arguments := ["integer", "string", "limit", "get", "/pets"] },
              { kind := .undefined, severity := .error, location := some {},
                arguments := ["debug", "get", "/pets"] },
              { kind := .missing, severity := .error,
                arguments := ["offset", "get", "/pets"] }]
          dangling := List.replicate 4 "#/components/parameters/gone" } := by
    decide +kernel
  exact ⟨_, returned, rfl, exists_verdicts_of_reconcile returned⟩

end ParameterDrift.Context
