import ParameterDrift.Proofs.Reconciliation.Verdicts
/-! # The two halves of a report

The first pass reports no parameter as missing and the second reports nothing else, so the kind of a
finding tells the pass that it comes from. A report is its findings about implemented parameters,
which are the verdicts on them, followed by those about documented parameters that are missing
(`ParameterDrift.Context.findings_eq_halves`).
-/

namespace ParameterDrift

/-- The findings of the first pass: those about implemented parameters. -/
def Report.aboutImplemented (report : Report) : List Finding :=
  report.findings.filter fun finding => finding.kind ≠ .missing

/-- The findings of the second pass: those about documented parameters that are missing. -/
def Report.aboutMissing (report : Report) : List Finding :=
  report.findings.filter fun finding => finding.kind = .missing

/-- Findings that stand in the order of the passes are told apart by their kinds. -/
theorem Report.halves_of_append {report : Report} {first second : List Finding}
    (split : report.findings = first ++ second) (others : ∀ finding ∈ first, finding.kind ≠ .missing)
    (missing : ∀ finding ∈ second, finding.kind = .missing) :
    report.aboutImplemented = first ∧ report.aboutMissing = second := by
  constructor
  · have kept : first.filter (fun finding => finding.kind ≠ .missing) = first :=
      List.filter_eq_self.mpr fun finding member => decide_eq_true (others finding member)
    have dropped : second.filter (fun finding => finding.kind ≠ .missing) = [] :=
      List.filter_eq_nil_iff.mpr fun finding member kind =>
        of_decide_eq_true kind (missing finding member)
    rw [aboutImplemented, split, List.filter_append, kept, dropped, List.append_nil]
  · have dropped : first.filter (fun finding => finding.kind = .missing) = [] :=
      List.filter_eq_nil_iff.mpr fun finding member kind =>
        others finding member (of_decide_eq_true kind)
    have kept : second.filter (fun finding => finding.kind = .missing) = second :=
      List.filter_eq_self.mpr fun finding member => decide_eq_true (missing finding member)
    rw [aboutMissing, split, List.filter_append, dropped, kept, List.nil_append]

namespace Finding

/-- The name of the parameter that a finding is about, as its message gives it. -/
def subject? (finding : Finding) : Option String :=
  match finding.kind with
  | .missing => finding.arguments[0]?
  | .undefined => finding.arguments[0]?
  | .typeMismatch => finding.arguments[2]?

/-- The parameter that a finding is about is among its arguments. -/
theorem mem_arguments_of_subject? {finding : Finding} {name : String}
    (about : finding.subject? = some name) : name ∈ finding.arguments := by
  rw [subject?] at about
  split at about
  · exact List.mem_of_getElem? about
  · exact List.mem_of_getElem? about
  · exact List.mem_of_getElem? about

/-- A finding is of a kind and about the parameter of a name. -/
def Concerns (kind : FindingKind) (name : String) (finding : Finding) : Prop :=
  finding.kind = kind ∧ finding.subject? = some name

instance (kind : FindingKind) (name : String) (finding : Finding) :
    Decidable (finding.Concerns kind name) :=
  inferInstanceAs (Decidable (_ ∧ _))

end Finding

namespace Context

variable {context : Context} {own : ImplementedParameter} {implemented : List ImplementedParameter}
  {entry : ContractParameter} {spec : List ContractParameter} {components : Components}
  {finding : Finding} {report : Report}

/-- No verdict on an implemented parameter says that it is missing. -/
theorem kind_ne_missing_of_verdict (found : context.verdict spec components own = some finding) :
    finding.kind ≠ .missing := by
  obtain ⟨_, _, kind⟩ := (isVerdict_of_judge (judge_of_verdict found)).placed finding rfl
  rcases kind with undefined | mismatch
  · rw [undefined]
    decide
  · rw [mismatch]
    decide

/-- A finding about an implemented parameter names it. -/
theorem subject?_of_judge (judged : context.judge spec components own = .ok (some finding)) :
    finding.subject? = some own.name := by
  have isVerdict := isVerdict_of_judge judged
  obtain ⟨_, _, undefined | mismatch⟩ := isVerdict.placed finding rfl
  · obtain ⟨shown, _, arguments⟩ := isVerdict.undefined_arguments finding rfl undefined
    rw [Finding.subject?, undefined, arguments]
    rfl
  · obtain ⟨contractType, arguments⟩ := isVerdict.mismatch_arguments finding rfl mismatch
    rw [Finding.subject?, mismatch, arguments]
    rfl

/-- A verdict is about the parameter that is judged. -/
theorem subject?_of_verdict (found : context.verdict spec components own = some finding) :
    finding.subject? = some own.name :=
  subject?_of_judge (judge_of_verdict found)

/-- A verdict points at the place of the parameter. -/
theorem location_of_verdict (found : context.verdict spec components own = some finding) :
    finding.location = some own.location :=
  ((isVerdict_of_judge (judge_of_verdict found)).placed finding rfl).2.1

/-- A missing finding is of that kind. -/
theorem kind_of_missing (found : context.missing implemented components entry = some finding) :
    finding.kind = .missing := by
  obtain ⟨name, _, rfl⟩ := Option.map_eq_some_iff.mp found
  rfl

/-- A report splits into the verdicts and what is missing. -/
theorem halves_of_reconcile
    (returned : context.reconcile implemented spec components = .ok report) :
    report.aboutImplemented = implemented.filterMap (context.verdict spec components) ∧
      report.aboutMissing = spec.filterMap (context.missing implemented components) := by
  apply Report.halves_of_append (findings_of_reconcile returned)
  · intro finding member
    obtain ⟨own, _, found⟩ := List.mem_filterMap.mp member
    exact kind_ne_missing_of_verdict found
  · intro finding member
    obtain ⟨entry, _, found⟩ := List.mem_filterMap.mp member
    exact kind_of_missing found

/-- The findings about implemented parameters are the verdicts on them, in order. -/
theorem aboutImplemented_of_reconcile
    (returned : context.reconcile implemented spec components = .ok report) :
    report.aboutImplemented = implemented.filterMap (context.verdict spec components) :=
  (halves_of_reconcile returned).1

/-- The findings about missing parameters are those about the entries of the contract, in order. -/
theorem aboutMissing_of_reconcile
    (returned : context.reconcile implemented spec components = .ok report) :
    report.aboutMissing = spec.filterMap (context.missing implemented components) :=
  (halves_of_reconcile returned).2

/-- **A report is its two halves.** -/
theorem findings_eq_halves
    (returned : context.reconcile implemented spec components = .ok report) :
    report.findings = report.aboutImplemented ++ report.aboutMissing := by
  rw [aboutImplemented_of_reconcile returned, aboutMissing_of_reconcile returned,
    findings_of_reconcile returned]

end Context

end ParameterDrift
