import ParameterDrift.Proofs.Contract.Reference
import ParameterDrift.Proofs.Reconciliation.Passes
/-! # References do not matter to a reconciliation

Both passes look at what the entries of a contract resolve to and at nothing else, so a
reconciliation finds the same, or ends with the same fault, when every entry is resolved beforehand
and those that lead nowhere are left out (`ParameterDrift.Context.outcome_transparent`). What a
reconciliation tells beside its findings, the references that it tried in vain, is lost that way.
-/

namespace ParameterDrift

variable {components others : Components} {entry resolved : ContractParameter}
  {spec before dangling after : List ContractParameter}

namespace ContractParameter

/-- One of some entries refers to a component by a name, whether or not there is one by it. -/
def ReferTo (spec : List ContractParameter) (name : String) : Prop :=
  ∃ entry ∈ spec, entry.ref.bind Reference.name? = some name

/-- What resolves is resolved already, whatever the components are. -/
theorem resolve_of_resolve (found : entry.resolve components = .ok resolved) :
    resolved.resolve others = .ok resolved :=
  resolve_of_ref_none (ref_of_resolve found)

theorem resolveAll_append :
    resolveAll components (before ++ after) =
      resolveAll components before ++ resolveAll components after :=
  List.filterMap_append

/-- Of entries that lead nowhere nothing is resolved. -/
theorem resolveAll_of_leadsNowhere (nowhere : ∀ entry ∈ dangling, LeadsNowhere components entry) :
    resolveAll components dangling = [] := by
  rw [resolveAll, List.filterMap_eq_nil_iff]
  intro entry member
  obtain ⟨ref, failed⟩ := leadsNowhere_iff.mp (nowhere entry member)
  rw [failed]
  rfl

/-- Resolving again changes nothing, whatever the components are. -/
theorem resolveAll_resolveAll (components others : Components) (spec : List ContractParameter) :
    resolveAll others (resolveAll components spec) = resolveAll components spec := by
  have each : ∀ entry ∈ spec,
      ((entry.resolve components).toOption.bind fun resolved =>
        (resolved.resolve others).toOption) = (entry.resolve components).toOption := by
    intro entry _
    cases outcome : entry.resolve components with
    | error ref => rfl
    | ok resolved =>
      have again : resolved.resolve others = .ok resolved := resolve_of_resolve outcome
      simp only [Except.toOption, Option.bind_some, again]
  rw [resolveAll, resolveAll, List.filterMap_filterMap]
  exact List.filterMap_congr each

/-- Entries resolve alike by tables that hold the same under every name they refer to. -/
theorem resolveAll_congr
    (same : ∀ name, ReferTo spec name → components.lookup name = others.lookup name) :
    resolveAll components spec = resolveAll others spec := by
  refine List.filterMap_congr ?_
  intro entry member
  have alike : entry.resolve components = entry.resolve others :=
    resolve_congr fun name named => same name ⟨entry, member, named⟩
  rw [alike]

end ContractParameter

open ContractParameter

namespace Context

variable {context : Context} {implemented : List ImplementedParameter}

/-- What a reconciliation finds, or the fault that it ends with. -/
def outcome (context : Context) (implemented : List ImplementedParameter)
    (spec : List ContractParameter) (components : Components) :
    Except Identifier.CodePointFault (List Finding) :=
  (context.reconcile implemented spec components).map Report.findings

/-- A verdict depends only on what the entries resolve to. -/
theorem judge_congr {entries : List ContractParameter}
    (same : resolveAll components spec = resolveAll others entries) :
    context.judge spec components = context.judge entries others := by
  funext own
  rw [judge, judge, found_search, found_search, same]

/-- What is found depends on the resolved parameters alone. -/
theorem outcome_congr {entries : List ContractParameter}
    (same : resolveAll components spec = resolveAll others entries) :
    context.outcome implemented spec components = context.outcome implemented entries others := by
  have documented : (context.checkDocumented implemented components spec).findings =
      (context.checkDocumented implemented others entries).findings := by
    rw [findings_checkDocumented, findings_checkDocumented, same]
  rw [outcome, outcome, reconcile, reconcile, checkImplemented_eq, checkImplemented_eq,
    judge_congr same]
  -- the judgements are the same, and they alone can fail
  cases implemented.mapM (context.judge entries others) with
  | error fault => rfl
  | ok verdicts =>
    simp only [Except.map]
    rw [documented]

/-- **References are transparent.** What is found is what is found with every entry resolved
beforehand and those left out that lead nowhere. So neither entries that lead nowhere nor components
to which no entry refers matter, nor does the order of the components, and resolving twice is
resolving once. -/
theorem outcome_transparent (context : Context) (implemented : List ImplementedParameter)
    (spec : List ContractParameter) (components : Components) :
    context.outcome implemented spec components =
        context.outcome implemented (resolveAll components spec) [] ∧
      (∀ before dangling after, (∀ entry ∈ dangling, LeadsNowhere components entry) →
        context.outcome implemented (before ++ dangling ++ after) components =
          context.outcome implemented (before ++ after) components) ∧
      (∀ before added after, (∀ component ∈ added, ¬ ReferTo spec component.1) →
        context.outcome implemented spec (before ++ added ++ after) =
          context.outcome implemented spec (before ++ after)) ∧
      (∀ others, components.Perm others → (components.map Prod.fst).Nodup →
        context.outcome implemented spec components =
          context.outcome implemented spec others) ∧
      ∀ entry resolved : ContractParameter, entry.resolve components = .ok resolved →
        resolved.ref = none ∧ ∀ others, resolved.resolve others = .ok resolved := by
  refine ⟨?_, ?_, ?_, ?_, ?_⟩
  · exact outcome_congr (resolveAll_resolveAll components [] spec).symm
  · intro before dangling after nowhere
    apply outcome_congr
    rw [resolveAll_append, resolveAll_append, resolveAll_of_leadsNowhere nowhere,
      List.append_nil, resolveAll_append]
  · intro before added after unnamed
    apply outcome_congr
    apply resolveAll_congr
    intro name named
    apply Keyed.lookup_append_of_absent
    rintro component member rfl
    exact unnamed component member named
  · intro others perm distinct
    apply outcome_congr
    apply resolveAll_congr
    intro name _
    exact Keyed.lookup_eq_of_perm perm distinct name
  · intro entry resolved found
    exact ⟨ref_of_resolve found, fun others => resolve_of_resolve found⟩

/-- Entries that lead nowhere, one for each reason. -/
def strayEntries : List ContractParameter :=
  [{ ref := some "https://example.com/limit" }, { ref := some "#limit" }, { ref := some "#/" },
    { ref := some "#/components/parameters/gone" }, { ref := some "#/components/parameters/alias" }]

/-- A component without a name, and one that is a reference to it. -/
def strayComponents : Components :=
  [("limit", { location := some "query", schema := some { type := some "integer" } }),
    ("alias", { ref := some "#/components/parameters/limit" })]

/-- The entry that refers to the component without a name. -/
def limitReference : ContractParameter where
  ref := some "#/components/parameters/limit"

/-- Stray entries around a reference that leads somewhere, and a component that nothing refers to,
leave the findings as they are. -/
theorem outcome_transparent_strays :
    (∀ entry ∈ strayEntries, LeadsNowhere strayComponents entry) ∧
      ¬ ReferTo [limitReference] "page" ∧ (strayComponents.map Prod.fst).Nodup ∧
      ({ method := "get", path := "/pets" } : Context).outcome [] (strayEntries ++ [limitReference])
          strayComponents =
        .ok [{ kind := .missing, severity := .error, arguments := ["limit", "get", "/pets"] }] ∧
      ({ method := "get", path := "/pets" } : Context).outcome [] [limitReference]
          (("page", {}) :: strayComponents.reverse) =
        .ok [{ kind := .missing, severity := .error, arguments := ["limit", "get", "/pets"] }] := by
  have stray : ∀ entry ∈ strayEntries, LeadsNowhere strayComponents entry := by
    intro entry member
    change entry ∈ [_, _, _, _, _] at member
    simp only [List.mem_cons, List.not_mem_nil, or_false] at member
    rcases member with rfl | rfl | rfl | rfl | rfl
    · exact .external _ rfl (by decide)
    · exact .flat _ rfl (by decide)
    · exact .nameless _ rfl (by decide)
    · exact .missing "gone" (by decide +kernel) (by decide)
    · exact .indirect "alias" _ (by decide +kernel) rfl rfl
  have unnamed : ¬ ReferTo [limitReference] "page" := by
    rintro ⟨entry, member, named⟩
    rw [List.mem_singleton.mp member] at named
    exact absurd named (by decide +kernel)
  have distinct : (strayComponents.map Prod.fst).Nodup := by decide
  have alone : ({ method := "get", path := "/pets" } : Context).outcome [] [limitReference]
      strayComponents =
        .ok [{ kind := .missing, severity := .error, arguments := ["limit", "get", "/pets"] }] := by
    decide +kernel
  obtain ⟨_, inserted, added, reordered, _⟩ :=
    outcome_transparent { method := "get", path := "/pets" } [] [limitReference] strayComponents
  refine ⟨stray, unnamed, distinct, ?_, ?_⟩
  · exact (inserted [] strayEntries [limitReference] stray).trans alone
  · have unused : ∀ component ∈ [("page", ({} : ContractParameter))],
        ¬ ReferTo [limitReference] component.1 := by
      intro component member
      rw [List.mem_singleton.mp member]
      exact unnamed
    have reversed :=
      reordered strayComponents.reverse (List.reverse_perm strayComponents).symm distinct
    exact (added [] [("page", {})] strayComponents.reverse unused).trans (reversed.symm.trans alone)

end Context

end ParameterDrift
