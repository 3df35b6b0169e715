import ParameterDrift.Proofs.Reconciliation.Halves
import ParameterDrift.Proofs.Reconciliation.References
/-! # The order of declarations

What is said about a parameter does not depend on the order in which a resource declares its
parameters. Nor does it depend on the order of the contract where names are distinct: then the first
entry that documents a name is the only one
(`ParameterDrift.DistinctNames.firstDocumented_iff`). Findings move with the parameters and entries
that they are about (`ParameterDrift.Context.findings_of_perm`).
-/

namespace ParameterDrift

/-- No two entries of a contract resolve to parameters of one name. Entries that lead nowhere or to
a parameter without a name do not count. -/
def DistinctNames (components : Components) (spec : List ContractParameter) : Prop :=
  ((ContractParameter.resolveAll components spec).filterMap ContractParameter.name).Nodup

section Documented

variable {components : Components} {name : String} {entry parameter : ContractParameter}
  {spec spec' : List ContractParameter}

/-- A name that an entry documents is among the names of the contract. -/
theorem mem_names_of_documents (member : entry ∈ spec)
    (documents : entry.Documents components name parameter) :
    name ∈ (ContractParameter.resolveAll components spec).filterMap ContractParameter.name := by
  have resolved : (entry.resolve components).toOption = some parameter := by
    rw [documents.1]
    rfl
  exact List.mem_filterMap.mpr
    ⟨parameter, List.mem_filterMap.mpr ⟨entry, member, resolved⟩, documents.2⟩

/-- Where names are distinct, an entry that documents a name is the first that does. -/
theorem DistinctNames.firstDocumented_iff (distinct : DistinctNames components spec) :
    FirstDocumented components name spec parameter ↔
      ∃ entry ∈ spec, entry.Documents components name parameter := by
  constructor
  · rintro ⟨before, entry, after, rfl, documents, _⟩
    exact ⟨entry, List.mem_append_right before List.mem_cons_self, documents⟩
  · rintro ⟨entry, member, documents⟩
    obtain ⟨before, after, rfl⟩ := List.append_of_mem member
    rw [DistinctNames, ContractParameter.resolveAll_append, List.filterMap_append,
      List.nodup_append] at distinct
    -- an entry in front with the name would make it a double
    refine ⟨before, entry, after, rfl, documents, ?_⟩
    intro other earlier found alsoDocuments
    exact distinct.2.2 name (mem_names_of_documents earlier alsoDocuments) name
      (mem_names_of_documents List.mem_cons_self documents) rfl

/-- Names are distinct in whatever order the entries stand. -/
theorem DistinctNames.perm (distinct : DistinctNames components spec) (perm : spec.Perm spec') :
    DistinctNames components spec' :=
  ((perm.filterMap _).filterMap _).nodup_iff.mp distinct

/-- Where names are distinct, the search for a name does not depend on the order. -/
theorem DistinctNames.found_search_eq (distinct : DistinctNames components spec)
    (perm : spec.Perm spec') :
    (search components name spec).found = (search components name spec').found := by
  apply Option.ext
  intro parameter
  rw [found_search_eq_some_iff, found_search_eq_some_iff, distinct.firstDocumented_iff,
    (distinct.perm perm).firstDocumented_iff]
  exact exists_congr fun entry => and_congr_left fun _ => perm.mem_iff

end Documented

namespace Context

variable {context : Context} {implemented implemented' : List ImplementedParameter}
  {spec spec' : List ContractParameter} {components : Components} {report : Report}

/-- What is missing does not depend on the order of the implemented parameters. -/
theorem missing_eq_of_perm (perm : implemented.Perm implemented') :
    context.missing implemented components = context.missing implemented' components := by
  funext entry
  apply Option.ext
  intro finding
  simp only [missing_eq_some_iff, IsMissing, perm.mem_iff]

/-- A verdict does not depend on the order of entries with distinct names. -/
theorem judge_eq_of_perm (distinct : DistinctNames components spec) (perm : spec.Perm spec') :
    context.judge spec components = context.judge spec' components := by
  funext own
  rw [judge, judge, distinct.found_search_eq perm]

/-- Parameters that are declared in another order keep their verdicts. -/
theorem exists_reconcile_of_perm (perm : implemented.Perm implemented')
    (returned : context.reconcile implemented spec components = .ok report) :
    ∃ report', context.reconcile implemented' spec components = .ok report' ∧
      report'.aboutImplemented = implemented'.filterMap (context.verdict spec components) ∧
      report'.aboutMissing = report.aboutMissing := by
  obtain ⟨report', returned'⟩ := reconcile_eq_ok_iff.mpr fun own member =>
    ⟨_, judge_eq_ok_verdict returned (perm.mem_iff.mpr member)⟩
  refine ⟨report', returned', aboutImplemented_of_reconcile returned', ?_⟩
  rw [aboutMissing_of_reconcile returned, aboutMissing_of_reconcile returned',
    missing_eq_of_perm perm]

/-- Entries that are listed in another order are missing or not as before. -/
theorem exists_reconcile_of_perm_spec (perm : spec.Perm spec')
    (distinct : DistinctNames components spec)
    (returned : context.reconcile implemented spec components = .ok report) :
    ∃ report', context.reconcile implemented spec' components = .ok report' ∧
      report'.aboutImplemented = report.aboutImplemented ∧
      report'.aboutMissing = spec'.filterMap (context.missing implemented components) := by
  have same : context.judge spec components = context.judge spec' components :=
    judge_eq_of_perm distinct perm
  obtain ⟨report', returned'⟩ := reconcile_eq_ok_iff.mpr fun own member =>
    ⟨_, (congrFun same own).symm.trans (judge_eq_ok_verdict returned member)⟩
  refine ⟨report', returned', ?_, aboutMissing_of_reconcile returned'⟩
  rw [aboutImplemented_of_reconcile returned, aboutImplemented_of_reconcile returned',
    verdict_congr same]

/-- **The order of declarations does not matter.** Implemented parameters in another order keep
their verdicts, each its own, and the same parameters are missing. Entries of the contract in
another order, where names are distinct, leave the verdicts as they are, and each is missing or not
as before. -/
theorem findings_of_perm (context : Context) (components : Components) :
    (∀ (implemented implemented' : List ImplementedParameter) (spec : List ContractParameter)
      (report : Report), implemented.Perm implemented' →
        context.reconcile implemented spec components = .ok report →
          ∃ report', context.reconcile implemented' spec components = .ok report' ∧
            report.aboutImplemented = implemented.filterMap (context.verdict spec components) ∧
            report'.aboutImplemented = implemented'.filterMap (context.verdict spec components) ∧
            report.aboutImplemented.Perm report'.aboutImplemented ∧
            report'.aboutMissing = report.aboutMissing) ∧
      (∀ (implemented : List ImplementedParameter) (spec spec' : List ContractParameter)
        (report : Report), spec.Perm spec' → DistinctNames components spec →
          context.reconcile implemented spec components = .ok report →
            ∃ report', context.reconcile implemented spec' components = .ok report' ∧
              report'.aboutImplemented = report.aboutImplemented ∧
              report.aboutMissing = spec.filterMap (context.missing implemented components) ∧
              report'.aboutMissing = spec'.filterMap (context.missing implemented components) ∧
              report.aboutMissing.Perm report'.aboutMissing) ∧
        ∀ (implemented : List ImplementedParameter) (spec : List ContractParameter)
          (report : Report), context.reconcile implemented spec components = .ok report →
            report.findings = report.aboutImplemented ++ report.aboutMissing := by
  refine ⟨?_, ?_, fun _ _ _ => findings_eq_halves⟩
  · intro implemented implemented' spec report perm returned
    have verdicts := aboutImplemented_of_reconcile returned
    obtain ⟨report', returned', verdicts', missing⟩ := exists_reconcile_of_perm perm returned
    refine ⟨report', returned', verdicts, verdicts', ?_, missing⟩
    rw [verdicts, verdicts']
    exact perm.filterMap _
  · intro implemented spec spec' report perm distinct returned
    have missing := aboutMissing_of_reconcile returned
    obtain ⟨report', returned', verdicts, missing'⟩ :=
      exists_reconcile_of_perm_spec perm distinct returned
    refine ⟨report', returned', verdicts, missing, missing', ?_⟩
    rw [missing, missing']
    exact perm.filterMap _

/-- The context of an operation on litters. -/
def litters : Context where
  method := "get"
  path := "/litters"

/-- What is documented of litters: distinct names, among references that lead nowhere and parameters
without a name. -/
def litterSpec : List ContractParameter :=
  [{ ref := some "#/gone" }, { name := some "dam", schema := some { type := some "string" } },
    { schema := some { type := some "integer" } }, { ref := some "#/gone" },
    { name := some "sire", schema := some { type := some "string" } },
    { name := some "born", location := some "query" }, {}]

/-- What is implemented of litters, one parameter twice. -/
def litterParameters : List ImplementedParameter :=
  [{ name := "dam", declaredType := "int", form := .required },
    { name := "size", declaredType := "int", form := .required },
    { name := "dam", declaredType := "string", form := .defaultable }]

/-- A parameter of litters is mismatched, one is undocumented and two are missing. When either list
is turned around, so are the findings about it. -/
theorem findings_of_perm_litters :
    litterParameters.Perm litterParameters.reverse ∧ litterSpec.Perm litterSpec.reverse ∧
      DistinctNames [] litterSpec ∧
      ∃ report, litters.reconcile litterParameters litterSpec [] = .ok report ∧
        report.findings.map Finding.kind = [.typeMismatch, .undefined, .missing, .missing] ∧
        (∃ report', litters.reconcile litterParameters.reverse litterSpec [] = .ok report' ∧
          report'.aboutImplemented = report.aboutImplemented.reverse ∧
          report'.aboutMissing = report.aboutMissing) ∧
        ∃ report', litters.reconcile litterParameters litterSpec.reverse [] = .ok report' ∧
          report'.aboutImplemented = report.aboutImplemented ∧
          report'.aboutMissing = report.aboutMissing.reverse := by
  have turned := (List.reverse_perm litterParameters).symm
  have turnedSpec := (List.reverse_perm litterSpec).symm
  have distinct : DistinctNames [] litterSpec := by
    rw [DistinctNames]
    decide +kernel
  have kinds : (litters.reconcile litterParameters litterSpec []).map
      (fun report => report.findings.map Finding.kind) =
        .ok [.typeMismatch, .undefined, .missing, .missing] := by
    decide +kernel
  obtain ⟨report, returned, listed⟩ := Outcome.map_eq_ok_iff.mp kinds
  obtain ⟨parametersTurned, entriesTurned, _⟩ := findings_of_perm litters []
  obtain ⟨report', returned', verdicts, verdicts', _, missing⟩ :=
    parametersTurned litterParameters _ litterSpec report turned returned
  obtain ⟨report'', returned'', same, missed, missed', _⟩ :=
    entriesTurned litterParameters litterSpec _ report turnedSpec distinct returned
  refine ⟨turned, turnedSpec, distinct, report, returned, listed,
    ⟨report', returned', ?_, missing⟩, report'', returned'', same, ?_⟩
  · rw [verdicts, verdicts', List.filterMap_reverse]
  · rw [missed, missed', List.filterMap_reverse]

/-- Of two entries of one name the first decides, so that their order matters. -/
example :
    litters.reconcile litterParameters
        [{ name := some "dam", schema := some { type := some "integer" } },
          { name := some "dam", schema := some { type := some "string" } }] [] ≠
      litters.reconcile litterParameters
        [{ name := some "dam", schema := some { type := some "string" } },
          { name := some "dam", schema := some { type := some "integer" } }] [] := by
  decide +kernel

end Context

end ParameterDrift
