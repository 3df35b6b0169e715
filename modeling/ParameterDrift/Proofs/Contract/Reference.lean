import ParameterDrift.Contract.Reference
import ParameterDrift.Proofs.Keyed
/-! # Where references lead

A reference leads nowhere for one of five reasons: it points out of the document, it holds no slash,
it ends in one, no component has the name that it ends in, or the component of that name is a
reference itself (`ParameterDrift.leadsNowhere_iff`). Which components a contract has beside those
that are named, and in which order they stand, does not matter to any reference.
-/

namespace ParameterDrift

namespace Reference

variable {digit image : Char} {text : List Char}

theorem replaceTilde_eq_nil_iff : replaceTilde digit image text = [] ↔ text = [] := by
  fun_cases replaceTilde digit image text <;> simp

theorem decode_eq_nil_iff : decode text = [] ↔ text = [] := by
  rw [decode, replaceTilde_eq_nil_iff, replaceTilde_eq_nil_iff]

/-- Nothing follows the last slash where a text ends in one. -/
theorem afterLastSlash_eq_nil_iff (something : text ≠ []) :
    afterLastSlash text = [] ↔ text.getLast? = some '/' := by
  rw [afterLastSlash, List.reverse_eq_nil_iff, ← List.head?_reverse]
  cases backwards : text.reverse with
  | nil => exact absurd (List.reverse_eq_nil_iff.mp backwards) something
  | cons c rest => by_cases slash : c = '/' <;> simp [slash]

/-- What follows the last slash does not depend on what comes before some slash. -/
theorem afterLastSlash_append (before after : List Char) :
    afterLastSlash (before ++ '/' :: after) = afterLastSlash after := by
  have reversed : (before ++ '/' :: after).reverse = after.reverse ++ '/' :: before.reverse := by
    rw [List.reverse_append, List.reverse_cons, List.append_assoc, List.singleton_append]
  rw [afterLastSlash, afterLastSlash, reversed, List.takeWhile_append,
    List.takeWhile_cons_of_neg (by decide), List.append_nil]
  split
  · next whole => rw [(List.takeWhile_prefix _).eq_of_length whole]
  · rfl

/-- The name that a reference ends in when it begins with a number sign and has a slash. -/
theorem componentName?_append (before after : List Char) :
    componentName? ('#' :: before ++ '/' :: after) =
      if (decode (afterLastSlash after)).isEmpty then none
      else some (decode (afterLastSlash after)) := by
  have inside : ('#' :: before ++ '/' :: after).contains '/' = true := by
    rw [List.contains_iff_mem]
    exact List.mem_append_right _ List.mem_cons_self
  have within : (('#' :: before ++ '/' :: after).head? = some '#' &&
      ('#' :: before ++ '/' :: after).contains '/') = true := by
    rw [inside]
    rfl
  rw [componentName?, if_pos within, afterLastSlash_append]

/-- A text names no component when it points elsewhere, holds no slash or ends in one. -/
theorem name?_eq_none_iff {ref : String} :
    name? ref = none ↔
      ref.toList.head? ≠ some '#' ∨ '/' ∉ ref.toList ∨ ref.toList.getLast? = some '/' := by
  rw [name?, Option.map_eq_none_iff, componentName?]
  by_cases within : ref.toList.head? = some '#'
  · by_cases slash : '/' ∈ ref.toList
    · have something : ref.toList ≠ [] := List.ne_nil_of_mem slash
      simp [within, slash, decode_eq_nil_iff, afterLastSlash_eq_nil_iff something]
    · simp [slash]
  · simp [within]

end Reference

variable {components others : Components} {entry target : ContractParameter}

/-- Why an entry that is a reference resolves to nothing. -/
inductive LeadsNowhere (components : Components) (entry : ContractParameter) : Prop
  | external (ref : String) (written : entry.ref = some ref)
      (elsewhere : ref.toList.head? ≠ some '#')
  | flat (ref : String) (written : entry.ref = some ref) (slashless : '/' ∉ ref.toList)
  | nameless (ref : String) (written : entry.ref = some ref)
      (ended : ref.toList.getLast? = some '/')
  | missing (name : String) (named : entry.ref.bind Reference.name? = some name)
      (absent : components.lookup name = none)
  | indirect (name : String) (target : ContractParameter)
      (named : entry.ref.bind Reference.name? = some name)
      (found : components.lookup name = some target) (refers : target.ref.isSome)

namespace ContractParameter

/-- A reference without a name resolves to nothing. -/
theorem resolve_of_name?_eq_none {ref : String} (written : entry.ref = some ref)
    (unnamed : Reference.name? ref = none) : entry.resolve components = .error ref := by
  simp [resolve, written, unnamed]

/-- A reference to a name that is not there resolves to nothing. -/
theorem resolve_of_lookup_eq_none {ref name : String} (written : entry.ref = some ref)
    (named : Reference.name? ref = some name) (absent : components.lookup name = none) :
    entry.resolve components = .error ref := by
  simp [resolve, written, named, absent]

/-- A reference resolves to what it names unless that is a reference itself. -/
theorem resolve_of_lookup {ref name : String} (written : entry.ref = some ref)
    (named : Reference.name? ref = some name) (found : components.lookup name = some target) :
    entry.resolve components =
      if target.ref.isSome then .error ref
      else .ok { target with name := (target.name.filter (· ≠ "")).getD name } := by
  simp [resolve, written, named, found]

/-- A reference to a parameter in place resolves to it, under its own name or else that of the
reference. -/
theorem resolve_of_plain {ref name : String} (written : entry.ref = some ref)
    (named : Reference.name? ref = some name) (found : components.lookup name = some target)
    (plain : target.ref = none) :
    entry.resolve components =
      .ok { target with name := (target.name.filter (· ≠ "")).getD name } := by
  rw [resolve_of_lookup written named found, if_neg (Option.not_isSome_iff_eq_none.mpr plain)]

/-- Two tables that hold the same under the name of a reference resolve it alike. -/
theorem resolve_congr
    (same : ∀ name, entry.ref.bind Reference.name? = some name →
      components.lookup name = others.lookup name) :
    entry.resolve components = entry.resolve others := by
  cases written : entry.ref with
  | none => rw [resolve_of_ref_none written, resolve_of_ref_none written]
  | some ref =>
    cases named : Reference.name? ref with
    | none => rw [resolve_of_name?_eq_none written named, resolve_of_name?_eq_none written named]
    | some name =>
      have equal : components.lookup name = others.lookup name :=
        same name (by rw [written, Option.bind_some, named])
      cases found : components.lookup name with
      | none =>
        rw [resolve_of_lookup_eq_none written named found,
          resolve_of_lookup_eq_none written named (equal ▸ found)]
      | some target =>
        rw [resolve_of_lookup written named found,
          resolve_of_lookup written named (equal ▸ found)]

end ContractParameter

open ContractParameter

/-- **Where references lead nowhere.** An entry resolves to nothing for one of the five reasons, and
for no other. -/
theorem leadsNowhere_iff :
    LeadsNowhere components entry ↔ ∃ ref, entry.resolve components = .error ref := by
  constructor
  · intro nowhere
    cases nowhere with
    | external ref written elsewhere =>
      have unnamed := Reference.name?_eq_none_iff.mpr (.inl elsewhere)
      exact ⟨ref, resolve_of_name?_eq_none written unnamed⟩
    | flat ref written slashless =>
      have unnamed := Reference.name?_eq_none_iff.mpr (.inr (.inl slashless))
      exact ⟨ref, resolve_of_name?_eq_none written unnamed⟩
    | nameless ref written ended =>
      have unnamed := Reference.name?_eq_none_iff.mpr (.inr (.inr ended))
      exact ⟨ref, resolve_of_name?_eq_none written unnamed⟩
    | missing name named absent =>
      obtain ⟨ref, written, named⟩ := Option.bind_eq_some_iff.mp named
      exact ⟨ref, resolve_of_lookup_eq_none written named absent⟩
    | indirect name target named found refers =>
      obtain ⟨ref, written, named⟩ := Option.bind_eq_some_iff.mp named
      exact ⟨ref, by rw [resolve_of_lookup written named found, if_pos refers]⟩
  · rintro ⟨ref, failed⟩
    cases written : entry.ref with
    | none =>
      rw [resolve_of_ref_none written] at failed
      cases failed
    | some own =>
      cases named : Reference.name? own with
      | none =>
        rcases Reference.name?_eq_none_iff.mp named with elsewhere | slashless | ended
        · exact .external own written elsewhere
        · exact .flat own written slashless
        · exact .nameless own written ended
      | some name =>
        have named' : entry.ref.bind Reference.name? = some name := by
          rw [written, Option.bind_some, named]
        cases found : components.lookup name with
        | none => exact .missing name named' found
        | some target =>
          rw [resolve_of_lookup written named found] at failed
          by_cases refers : target.ref.isSome
          · exact .indirect name target named' found refers
          · rw [if_neg refers] at failed
            cases failed

instance (components : Components) (entry : ContractParameter) :
    Decidable (LeadsNowhere components entry) :=
  match outcome : entry.resolve components with
  | .ok _ => isFalse fun nowhere => by
      obtain ⟨ref, failed⟩ := leadsNowhere_iff.mp nowhere
      cases outcome.symm.trans failed
  | .error ref => isTrue (leadsNowhere_iff.mpr ⟨ref, outcome⟩)

end ParameterDrift
