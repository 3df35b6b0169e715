import Mathlib.Data.String.Basic
import ParameterDrift.Proofs.Reconciliation.Halves
import ParameterDrift.Proofs.Text.Case
/-! # Exempt locations

The locations that need no implementation are a set: the list of them is increasing, so it is fixed
by the lower-case forms that are in it, and bringing it into lower case once more changes nothing
(`ParameterDrift.exemptLocations_exemptLocations`). Only the second pass looks at them. With further
locations exempt a reconciliation finds what it found before, less what it said about parameters of
these locations (`ParameterDrift.Context.tell_exempting`). A finding alone does not
tell which entry of the contract it is about, since parameters of several locations may have one
name; so findings are kept together with the parameter that each is about.
-/

namespace ParameterDrift

/-! ### The set of exempt locations -/

section Locations

variable {text : String} {texts locations others : List String}

/-- Inserting keeps texts in increasing order. -/
theorem pairwise_insertIncreasing (increasing : texts.Pairwise (· < ·)) :
    (insertIncreasing text texts).Pairwise (· < ·) := by
  induction texts with
  | nil => exact List.pairwise_singleton _ _
  | cons first rest ih =>
    obtain ⟨before, later⟩ := List.pairwise_cons.mp increasing
    unfold insertIncreasing
    split
    · exact increasing
    · next notFirst =>
      split
      · next less =>
        refine List.pairwise_cons.mpr ⟨?_, increasing⟩
        intro other member
        rcases List.mem_cons.mp member with rfl | inRest
        · exact less
        · exact String.lt_trans less (before other inRest)
      · next notLess =>
        refine List.pairwise_cons.mpr ⟨?_, ih later⟩
        intro other member
        rcases mem_insertIncreasing.mp member with rfl | inRest
        · exact lt_of_le_of_ne (not_lt.mp notLess) (Ne.symm notFirst)
        · exact before other inRest

/-- The exempt locations are in increasing order. -/
theorem pairwise_exemptLocations (locations : List String) :
    (exemptLocations locations).Pairwise (· < ·) := by
  induction locations with
  | nil => exact List.Pairwise.nil
  | cons first rest ih => exact pairwise_insertIncreasing ih

/-- Increasing lists with the same members are one. -/
theorem exemptLocations_congr
    (same : ∀ location, location ∈ exemptLocations others ↔ location ∈ exemptLocations locations) :
    exemptLocations others = exemptLocations locations := by
  have distinct (texts : List String) : (exemptLocations texts).Nodup :=
    (pairwise_exemptLocations texts).imp fun less => ne_of_lt less
  have members : (exemptLocations others).Perm (exemptLocations locations) :=
    (List.perm_ext_iff_of_nodup (distinct others) (distinct locations)).mpr fun location =>
      same location
  refine members.eq_of_pairwise ?_ (pairwise_exemptLocations others)
    (pairwise_exemptLocations locations)
  intro left right _ _ less greater
  exact absurd less (String.lt_asymm greater)

/-- **Locations in lower case stay as they are.** -/
theorem exemptLocations_exemptLocations (locations : List String) :
    exemptLocations (exemptLocations locations) = exemptLocations locations := by
  apply exemptLocations_congr
  intro location
  rw [mem_exemptLocations]
  constructor
  · intro given
    obtain ⟨lowered, member, rfl⟩ := given
    obtain ⟨written, _, rfl⟩ := mem_exemptLocations.mp member
    rw [Text.lowerString_lowerString]
    exact member
  · intro member
    obtain ⟨written, among, rfl⟩ := mem_exemptLocations.mp member
    exact ⟨_, member, Text.lowerString_lowerString written⟩

end Locations

/-! ### Findings and what they are about -/

/-- A finding, with the documented parameter that it reports as missing if it reports one. -/
structure Attributed where
  finding : Finding
  missing : Option ContractParameter := none

/-- Whether a finding reports a parameter of one of some locations as missing. Letter case does not
matter, and no location is taken for the empty one. -/
def Attributed.isExempt (locations : List String) (told : Attributed) : Bool :=
  told.missing.any fun parameter =>
    (locations.map Text.lowerString).contains (Text.lowerString (parameter.location.getD ""))

namespace Context

variable {context : Context} {own : ImplementedParameter} {implemented : List ImplementedParameter}
  {entry : ContractParameter} {spec : List ContractParameter} {components : Components}
  {told : List Attributed} {report : Report} {locations exempt : List String}

/-- **The findings of a reconciliation, with what they are about.** First come the verdicts on the
implemented parameters, then the entries of the contract that are missed, each with the parameter
that the entry resolves to. -/
def Attributes (context : Context) (implemented : List ImplementedParameter)
    (spec : List ContractParameter) (components : Components) (told : List Attributed) : Prop :=
  ∃ (verdict : ImplementedParameter → Option Finding)
    (missing : ContractParameter → Option Attributed),
    told = (implemented.filterMap verdict).map (fun finding => ⟨finding, none⟩) ++
      spec.filterMap missing ∧
    (∀ own ∈ implemented, context.IsVerdict spec components own (verdict own)) ∧
    ∀ entry ∈ spec, ∀ one, missing entry = some one ↔
      context.IsMissing implemented components entry one.finding ∧
        ∃ parameter, entry.resolve components = .ok parameter ∧ one.missing = some parameter

/-- What is about a parameter of some location says that it is missing. -/
theorem Attributes.kind_of_isExempt (attributes : context.Attributes implemented spec components told)
    {one : Attributed} (member : one ∈ told) (exempt : one.isExempt locations = true) :
    one.finding.kind = .missing := by
  obtain ⟨verdict, missing, rfl, _, missed⟩ := attributes
  rcases List.mem_append.mp member with first | second
  · obtain ⟨finding, _, rfl⟩ := List.mem_map.mp first
    cases exempt
  · obtain ⟨entry, among, found⟩ := List.mem_filterMap.mp second
    obtain ⟨⟨_, _, _, _, _, _, same⟩, _⟩ := (missed entry among one).mp found
    rw [same]

/-- The finding about an entry of the contract, with the parameter that the entry resolves to. -/
def attributed (context : Context) (implemented : List ImplementedParameter)
    (components : Components) (entry : ContractParameter) : Option Attributed :=
  (entry.resolve components).toOption.bind fun parameter =>
    (context.missed? implemented parameter).map fun name =>
      ⟨context.missingFinding name, some parameter⟩

/-- The findings of both passes, with what they are about. -/
def tell (context : Context) (implemented : List ImplementedParameter)
    (spec : List ContractParameter) (components : Components) : List Attributed :=
  (implemented.filterMap (context.verdict spec components)).map (fun finding => ⟨finding, none⟩) ++
    spec.filterMap (context.attributed implemented components)

/-- A missing finding is the finding of one that is kept with its parameter. -/
theorem missing_eq_map_attributed :
    context.missing implemented components entry =
      (context.attributed implemented components entry).map Attributed.finding := by
  unfold missing attributed
  cases (entry.resolve components).toOption with
  | none => rfl
  | some parameter =>
    rw [Option.bind_some, Option.bind_some, Option.map_map]
    rfl

/-- A missing finding is kept with the parameter that is missing. -/
theorem attributed_eq_some_iff {one : Attributed} :
    context.attributed implemented components entry = some one ↔
      context.IsMissing implemented components entry one.finding ∧
        ∃ parameter, entry.resolve components = .ok parameter ∧ one.missing = some parameter := by
  obtain ⟨finding, about⟩ := one
  rw [← missing_eq_some_iff, missing_eq_map_attributed]
  unfold attributed
  cases entry.resolve components with
  | error ref => exact iff_of_false (by rintro ⟨⟩) (by rintro ⟨⟨⟩, _⟩)
  | ok parameter =>
    change (context.missed? implemented parameter).map _ = _ ↔
      ((context.missed? implemented parameter).map _).map _ = _ ∧ _
    cases context.missed? implemented parameter with
    | none => exact iff_of_false (by rintro ⟨⟩) (by rintro ⟨⟨⟩, _⟩)
    | some name =>
      simp only [Option.map_some, Option.some.injEq, Attributed.mk.injEq, Except.ok.injEq,
        exists_eq_left', eq_comm]

/-- What is told of a report attributes its findings. -/
theorem attributes_tell (returned : context.reconcile implemented spec components = .ok report) :
    context.Attributes implemented spec components (context.tell implemented spec components) :=
  ⟨context.verdict spec components, context.attributed implemented components, rfl,
    fun _ member => isVerdict_of_judge (judge_eq_ok_verdict returned member),
    fun _ _ _ => attributed_eq_some_iff⟩

/-- The findings of the report are those that are told. -/
theorem findings_eq_map_tell
    (returned : context.reconcile implemented spec components = .ok report) :
    report.findings = (context.tell implemented spec components).map Attributed.finding := by
  have second : spec.filterMap (context.missing implemented components) =
      (spec.filterMap (context.attributed implemented components)).map Attributed.finding := by
    rw [List.map_filterMap]
    exact List.filterMap_congr fun _ _ => missing_eq_map_attributed
  rw [findings_of_reconcile returned, second, tell, List.map_append, List.map_map]
  exact congrArg (· ++ _) (List.map_id _).symm

/-! ### Further exemptions -/

/-- The context with other locations exempt. -/
def exempting (context : Context) (exempt : List String) : Context :=
  { context with exempt }

/-- The first pass does not look at locations. -/
theorem judge_exempting :
    (context.exempting exempt).judge spec components = context.judge spec components :=
  rfl

/-- With further locations exempt, a parameter is missed when it was and its location is not among
them. -/
theorem missed?_exempting (more : ∀ location ∈ context.exempt, location ∈ exempt)
    (parameter : ContractParameter) :
    (context.exempting exempt).missed? implemented parameter =
      if (context.exempting exempt).isExempt parameter.location then none
      else context.missed? implemented parameter := by
  have grows : context.isExempt parameter.location = true →
      (context.exempting exempt).isExempt parameter.location = true := by
    simp only [isExempt, List.contains_iff_mem]
    exact more _
  unfold missed?
  cases parameter.name with
  | none => exact (ite_self none).symm
  | some name =>
    cases after : (context.exempting exempt).isExempt parameter.location with
    | true => rfl
    | false =>
      have before : context.isExempt parameter.location = false :=
        Bool.eq_false_iff.mpr fun exempt => absurd (grows exempt) (by rw [after]; decide)
      rw [before]
      rfl

/-- Exempting more locations filters what is kept. -/
theorem attributed_exempting (more : ∀ location ∈ context.exempt, location ∈ exempt)
    (lowered : ∀ location, location ∈ exempt ↔ location ∈ locations.map Text.lowerString) :
    (context.exempting exempt).attributed implemented components entry =
      (context.attributed implemented components entry).filter fun one =>
        !one.isExempt locations := by
  unfold attributed
  cases (entry.resolve components).toOption with
  | none => rfl
  | some parameter =>
    have same (finding : Finding) : Attributed.isExempt locations ⟨finding, some parameter⟩ =
        (context.exempting exempt).isExempt parameter.location := by
      rw [Bool.eq_iff_iff]
      simp only [isExempt, exempting, Attributed.isExempt, Option.any_some, List.contains_iff_mem]
      exact (lowered _).symm
    rw [Option.bind_some, Option.bind_some, missed?_exempting more]
    cases after : (context.exempting exempt).isExempt parameter.location with
    | true =>
      cases context.missed? implemented parameter with
      | none => rfl
      | some name => simp only [Option.map_some, Option.filter_some, same, after]; rfl
    | false =>
      cases context.missed? implemented parameter with
      | none => rfl
      | some name => simp only [Option.map_some, Option.filter_some, same, after]; rfl

/-- **Further exemptions.** With further locations exempt the findings are those from before, in
their order, without those about parameters of these locations. -/
theorem tell_exempting (more : ∀ location ∈ context.exempt, location ∈ exempt)
    (lowered : ∀ location, location ∈ exempt ↔ location ∈ locations.map Text.lowerString) :
    (context.exempting exempt).tell implemented spec components =
      (context.tell implemented spec components).filter fun one => !one.isExempt locations := by
  have second : spec.filterMap ((context.exempting exempt).attributed implemented components) =
      (spec.filterMap (context.attributed implemented components)).filter fun one =>
        !one.isExempt locations := by
    rw [List.filter_filterMap]
    exact List.filterMap_congr fun _ _ => attributed_exempting more lowered
  have first : ∀ findings : List Finding,
      (findings.map fun finding => Attributed.mk finding none).filter
          (fun one => !one.isExempt locations) =
        findings.map fun finding => ⟨finding, none⟩ := by
    intro findings
    refine List.filter_eq_self.mpr fun one member => ?_
    obtain ⟨finding, _, rfl⟩ := List.mem_map.mp member
    rfl
  unfold tell
  rw [List.filter_append, first, second]
  rfl

/-- A reconciliation returns with any locations exempt when it does with others. -/
theorem exists_reconcile_exempting
    (returned : context.reconcile implemented spec components = .ok report) (exempt : List String) :
    ∃ other, (context.exempting exempt).reconcile implemented spec components = .ok other := by
  rw [reconcile_eq_ok_iff, judge_exempting, ← reconcile_eq_ok_iff]
  exact ⟨report, returned⟩

end Context

end ParameterDrift
