import Mathlib.Algebra.GroupWithZero.Nat
import ParameterDrift.Proofs.Contract.Reference
import ParameterDrift.Proofs.Reconciliation.Passes
/-! # References that are followed in vain

A reconciliation tells every attempt to follow a reference that leads nowhere. The first pass makes
one search for each implemented parameter, which ends at the first entry that resolves to its name;
the second pass looks at every entry. So the attempts are told by the entries alone, without the
passes (`ParameterDrift.Context.dangling_of_reconcile`), and their number is that of the entries
that lead nowhere, once for the second pass and once more for every search that comes across them
(`ParameterDrift.Context.length_dangling_of_reconcile`).
-/

namespace ParameterDrift

variable {components : Components} {name : String} {entry : ContractParameter}
  {spec : List ContractParameter}

namespace ContractParameter

/-- An entry of a contract resolves to a parameter of a name. -/
def ResolvesTo (components : Components) (name : String) (entry : ContractParameter) : Prop :=
  ∃ parameter, entry.Documents components name parameter

/-- An entry that fails to resolve is resolved to no name. -/
theorem not_resolvesTo_of_error {ref : String} (failed : entry.resolve components = .error ref) :
    ¬ entry.ResolvesTo components name := by
  rintro ⟨_, resolves, _⟩
  cases failed.symm.trans resolves

/-- An entry is resolved to the name of its parameter. -/
theorem resolvesTo_iff_of_resolve {parameter : ContractParameter}
    (resolves : entry.resolve components = .ok parameter) :
    entry.ResolvesTo components name ↔ parameter.name = some name := by
  constructor
  · rintro ⟨_, also, named⟩
    cases resolves.symm.trans also
    exact named
  · intro named
    exact ⟨parameter, resolves, named⟩

instance (components : Components) (name : String) (entry : ContractParameter) :
    Decidable (entry.ResolvesTo components name) :=
  match outcome : entry.resolve components with
  | .error _ => isFalse (not_resolvesTo_of_error outcome)
  | .ok _ => decidable_of_iff _ (resolvesTo_iff_of_resolve outcome).symm

/-- The entries before the first that resolves to a name; all of them when there is none. -/
def passedOver (components : Components) (name : String) (spec : List ContractParameter) :
    List ContractParameter :=
  spec.takeWhile fun entry => ¬ entry.ResolvesTo components name

/-- How many of some entries lead nowhere. -/
def strays (components : Components) (entries : List ContractParameter) : Nat :=
  entries.countP fun entry => LeadsNowhere components entry

/-- The search stops at an entry of the name. -/
theorem passedOver_cons_of_resolvesTo (resolves : entry.ResolvesTo components name) :
    passedOver components name (entry :: spec) = [] :=
  List.takeWhile_cons_of_neg (by simpa using resolves)

/-- It passes over any other. -/
theorem passedOver_cons_of_not (skipped : ¬ entry.ResolvesTo components name) :
    passedOver components name (entry :: spec) = entry :: passedOver components name spec :=
  List.takeWhile_cons_of_pos (by simpa using skipped)

/-- Each entry that leads nowhere has its reference among those that are given back. -/
theorem length_danglingAll (components : Components) (entries : List ContractParameter) :
    (danglingAll components entries).length = strays components entries := by
  rw [danglingAll, List.length_filterMap_eq_countP, strays]
  refine List.countP_congr fun entry _ => ?_
  rw [decide_eq_true_iff, leadsNowhere_iff]
  cases entry.resolve components with
  | ok parameter => simp
  | error ref => simp

end ContractParameter

open ContractParameter

/-- **A search follows in vain** the references of the entries that it passes over. -/
theorem dangling_search (components : Components) (name : String)
    (spec : List ContractParameter) :
    (search components name spec).dangling =
      danglingAll components (passedOver components name spec) := by
  induction spec with
  | nil => rfl
  | cons entry rest ih =>
    cases outcome : entry.resolve components with
    | error ref =>
      rw [passedOver_cons_of_not (not_resolvesTo_of_error outcome)]
      simp [search, danglingAll, outcome, ih]
    | ok parameter =>
      -- the search ends at a parameter of the name and goes on at any other
      by_cases named : parameter.name = some name
      · rw [passedOver_cons_of_resolvesTo ((resolvesTo_iff_of_resolve outcome).mpr named)]
        simp [search, danglingAll, outcome, named]
      · rw [passedOver_cons_of_not (mt (resolvesTo_iff_of_resolve outcome).mp named)]
        simp [search, danglingAll, outcome, named, ih]

/-- The references that are followed in vain when some implemented parameters are reconciled with
the entries of a contract: those that the search for each parameter passes over, and then all. -/
def followedInVain (components : Components) (implemented : List ImplementedParameter)
    (spec : List ContractParameter) : List String :=
  (implemented.flatMap fun own =>
      danglingAll components (passedOver components own.name spec)) ++
    danglingAll components spec

/-- How often they are: once for each entry that leads nowhere, and for every implemented parameter
once more for each of these before the first entry that resolves to its name. -/
def failedAttempts (components : Components) (implemented : List ImplementedParameter)
    (spec : List ContractParameter) : Nat :=
  strays components spec +
    (implemented.map fun own => strays components (passedOver components own.name spec)).sum

/-- As many references are followed in vain as attempts fail. -/
theorem length_followedInVain (components : Components) (implemented : List ImplementedParameter)
    (spec : List ContractParameter) :
    (followedInVain components implemented spec).length =
      failedAttempts components implemented spec := by
  rw [followedInVain, List.length_append, List.length_flatMap, length_danglingAll, Nat.add_comm,
    failedAttempts]
  simp only [length_danglingAll]

namespace Context

variable {context : Context} {implemented : List ImplementedParameter} {report : Report}

/-- **The attempts that a reconciliation tells**, in their order. -/
theorem dangling_of_reconcile
    (returned : context.reconcile implemented spec components = .ok report) :
    report.dangling = followedInVain components implemented spec := by
  obtain ⟨first, passed, rfl⟩ := Outcome.map_eq_ok_iff.mp returned
  rw [checkImplemented_eq] at passed
  obtain ⟨verdicts, _, rfl⟩ := Outcome.map_eq_ok_iff.mp passed
  change (implemented.flatMap fun own => (search components own.name spec).dangling) ++
    (context.checkDocumented implemented components spec).dangling = _
  rw [dangling_checkDocumented, followedInVain]
  simp only [dangling_search]

/-- The report has one dangling reference for each failed attempt. -/
theorem length_dangling_of_reconcile
    (returned : context.reconcile implemented spec components = .ok report) :
    report.dangling.length = failedAttempts components implemented spec := by
  rw [dangling_of_reconcile returned, length_followedInVain]

end Context

end ParameterDrift
