import ParameterDrift.Proofs.Outcome
import ParameterDrift.Proofs.Raw.Entries
/-! # Values that are revised below

A mapping may be revised in the values of some of its entries and a list in some of its items, while
the keys, their order and the number of items stay. What is looked up in a revised mapping is what
was there before, or the revision of it (`ParameterDrift.Raw.lookup_of_entriesRevised`), and a
revised value is truthy as before. So where a reading treats a value and its revisions alike, it
treats the whole alike; the lemmas on lists that are related item by item serve to say so.
-/

namespace ParameterDrift

namespace Raw

/-- An entry whose value may be revised in a way that depends on its key. -/
inductive EntryRevised (field : Scalar → Raw → Raw → Prop) : Scalar × Raw → Scalar × Raw → Prop
  | same (entry : Scalar × Raw) : EntryRevised field entry entry
  | under {key : Scalar} {value other : Raw} : field key value other →
    EntryRevised field (key, value) (key, other)

/-- The entries of a mapping, some of them revised. -/
abbrev EntriesRevised (field : Scalar → Raw → Raw → Prop) :
    List (Scalar × Raw) → List (Scalar × Raw) → Prop :=
  List.Forall₂ (EntryRevised field)

/-- A value that is the same or a mapping of which some entries are revised. -/
inductive Revised (field : Scalar → Raw → Raw → Prop) : Raw → Raw → Prop
  | same (value : Raw) : Revised field value value
  | mapping {entries others : List (Scalar × Raw)} : EntriesRevised field entries others →
    Revised field (.mapping entries) (.mapping others)

variable {field : Scalar → Raw → Raw → Prop} {entries others : List (Scalar × Raw)}
  {value other : Raw} {name : String}

/-- What is under a name is the same or a revision that the name allows. -/
theorem lookup_of_entriesRevised (revises : EntriesRevised field entries others) (name : String) :
    lookup name others = lookup name entries ∨
      ∃ value other, lookup name entries = some value ∧ lookup name others = some other ∧
        field (.text name) value other := by
  induction revises with
  | nil => exact .inl rfl
  | @cons entry revised rest later first _ ih =>
    cases first with
    | same =>
      obtain ⟨key, value⟩ := entry
      rw [lookup_cons, lookup_cons]
      split
      · exact .inl rfl
      · exact ih
    | @under key value other allowed =>
      rw [lookup_cons, lookup_cons]
      split
      · next named => exact .inr ⟨value, other, rfl, rfl, named ▸ allowed⟩
      · exact ih

/-- Under a name where nothing may differ the same is found. -/
theorem lookup_eq_of_entriesRevised (revises : EntriesRevised field entries others)
    (untouched : ∀ value other, ¬ field (.text name) value other) :
    lookup name others = lookup name entries := by
  rcases lookup_of_entriesRevised revises name with same | ⟨value, other, _, _, revised⟩
  · exact same
  · exact absurd revised (untouched value other)

/-- Under any name there is something in both or in neither. -/
theorem isSome_lookup_of_entriesRevised (revises : EntriesRevised field entries others)
    (name : String) : (lookup name others).isSome = (lookup name entries).isSome := by
  rcases lookup_of_entriesRevised revises name with same | ⟨value, other, found, otherFound, _⟩
  · rw [same]
  · rw [found, otherFound]
    rfl

/-- Corresponding mappings are empty together. -/
theorem isTruthy_mapping_of_forall₂ {related : Scalar × Raw → Scalar × Raw → Prop}
    (alike : List.Forall₂ related entries others) :
    (mapping others).isTruthy = (mapping entries).isTruthy := by
  cases alike with
  | nil => rfl
  | cons => rfl

/-- Corresponding lists are empty together. -/
theorem isTruthy_list_of_forall₂ {related : Raw → Raw → Prop} {items revised : List Raw}
    (alike : List.Forall₂ related items revised) :
    (list revised).isTruthy = (list items).isTruthy := by
  cases alike with
  | nil => rfl
  | cons => rfl

/-- What is truthy under a name is the same, or it is a revision and truthy as well, as long as a
revision does not decide what is truthy. -/
theorem lookupTruthy_of_entriesRevised (revises : EntriesRevised field entries others)
    (keeps : ∀ value other, field (.text name) value other → other.isTruthy = value.isTruthy) :
    lookupTruthy name others = lookupTruthy name entries ∨
      ∃ value other, lookupTruthy name entries = some value ∧
        lookupTruthy name others = some other ∧ field (.text name) value other := by
  rcases lookup_of_entriesRevised revises name with
    same | ⟨value, other, found, otherFound, revised⟩
  · exact .inl (lookupTruthy_congr same)
  · cases truthy : value.isTruthy with
    | true =>
      have otherTruthy := (keeps value other revised).trans truthy
      exact .inr ⟨value, other, lookupTruthy_of_lookup found truthy,
        lookupTruthy_of_lookup otherFound otherTruthy, revised⟩
    | false =>
      have otherFalsy := (keeps value other revised).trans truthy
      left
      rw [lookupTruthy, lookupTruthy, found, otherFound, Option.filter_some, Option.filter_some,
        truthy, otherFalsy, if_neg Bool.false_ne_true, if_neg Bool.false_ne_true]

end Raw

namespace Outcome

variable {ε α β γ : Type}

/-- Two outcomes that are the same fault, or values that are related. -/
inductive Alike (related : α → β → Prop) : Except ε α → Except ε β → Prop
  | error (fault : ε) : Alike related (.error fault) (.error fault)
  | ok {a : α} {b : β} : related a b → Alike related (.ok a) (.ok b)

/-- Outcomes that are alike are continued alike. -/
theorem Alike.bind {first : Except ε α} {other : Except ε β} {δ : Type} {next : α → Except ε γ}
    {otherNext : β → Except ε δ} {related : α → β → Prop} {later : γ → δ → Prop}
    (alike : Alike related first other)
    (nextAlike : ∀ a b, related a b → Alike later (next a) (otherNext b)) :
    Alike later (first >>= next) (other >>= otherNext) := by
  cases alike with
  | error fault => exact .error fault
  | ok values => exact nextAlike _ _ values

theorem Alike.refl {related : α → α → Prop} (outcome : Except ε α) (same : ∀ a, related a a) :
    Alike related outcome outcome := by
  cases outcome with
  | error fault => exact .error fault
  | ok a => exact .ok (same a)

theorem Alike.mapError {first : Except ε α} {other : Except ε β} {ε' : Type}
    {related : α → β → Prop}
    (alike : Alike related first other) (f : ε → ε') :
    Alike related (first.mapError f) (other.mapError f) := by
  cases alike with
  | error fault => exact .error (f fault)
  | ok values => exact .ok values

/-- What goes on alike from related values comes to the same. -/
theorem Alike.bind_eq {first : Except ε α} {other : Except ε β} {next : α → Except ε γ}
    {otherNext : β → Except ε γ} {related : α → β → Prop} (alike : Alike related first other)
    (nextSame : ∀ a b, related a b → otherNext b = next a) :
    other >>= otherNext = first >>= next := by
  cases alike with
  | error fault => rfl
  | ok values => exact nextSame _ _ values

/-- Items that are read alike make lists that are read alike. -/
theorem Alike.mapM {related : γ → γ → Prop} {read : α → Except ε γ} {items others : List α}
    (each : List.Forall₂ (fun item other => Alike related (read item) (read other)) items others) :
    Alike (List.Forall₂ related) (items.mapM read) (others.mapM read) := by
  induction each with
  | nil => exact .ok .nil
  | cons first _ ih =>
    rw [List.mapM_cons, List.mapM_cons]
    exact first.bind fun a b values => ih.bind fun _ _ later => .ok (.cons values later)

/-- Choosing items and reading the chosen ones is one reading. -/
theorem mapM_filterMap (choose : α → Option β) (read : β → Except ε γ) (items : List α) :
    (items.filterMap choose).mapM read =
      (items.filterMap fun item => (choose item).map read).mapM id := by
  induction items with
  | nil => rfl
  | cons item rest ih =>
    cases chosen : choose item with
    | none =>
      rw [List.filterMap_cons_none chosen, List.filterMap_cons_none (by rw [chosen]; rfl), ih]
    | some part =>
      rw [List.filterMap_cons_some chosen,
        List.filterMap_cons_some (by rw [chosen, Option.map_some]), List.mapM_cons,
        List.mapM_cons, ih]
      rfl

/-- Lists whose items are chosen and read alike are read alike. -/
theorem mapM_filterMap_congr {choose : α → Option β} {read : β → Except ε γ} {items others : List α}
    (alike : List.Forall₂ (fun item other => (choose other).map read = (choose item).map read)
      items others) :
    (others.filterMap choose).mapM read = (items.filterMap choose).mapM read := by
  have chosen : (others.filterMap fun item => (choose item).map read) =
      items.filterMap fun item => (choose item).map read := by
    induction alike with
    | nil => rfl
    | cons first _ ih => rw [List.filterMap_cons, List.filterMap_cons, first, ih]
  rw [mapM_filterMap choose read others, chosen, ← mapM_filterMap]

end Outcome

namespace Keyed

variable {κ α β : Type} {same : κ → κ → Bool} {related : α → β → Prop} {left : List (κ × α)}
  {right : List (κ × β)} {pairs : List (κ × α)} {otherPairs : List (κ × β)}

/-- Entries with the same keys and related values. -/
def EntryRel (related : α → β → Prop) (entry : κ × α) (other : κ × β) : Prop :=
  other.1 = entry.1 ∧ related entry.2 other.2

/-- Inserting corresponding entries keeps the entries corresponding. -/
theorem forall₂_insertBy {entry : κ × α} {other : κ × β} (inserted : EntryRel related entry other)
    (alike : List.Forall₂ (EntryRel related) left right) :
    List.Forall₂ (EntryRel related) (insertBy same entry.1 entry.2 left)
      (insertBy same other.1 other.2 right) := by
  induction alike with
  | nil => exact .cons inserted .nil
  | @cons present otherPresent rest later first others ih =>
    rw [insertBy, insertBy, first.1, inserted.1]
    split
    · exact .cons ⟨rfl, inserted.2⟩ others
    · exact .cons ⟨rfl, first.2⟩ (inserted.1 ▸ ih)

/-- Related values are inserted at the same places. -/
theorem forall₂_insertAllBy (pairsAlike : List.Forall₂ (EntryRel related) pairs otherPairs)
    (alike : List.Forall₂ (EntryRel related) left right) :
    List.Forall₂ (EntryRel related) (insertAllBy same left pairs)
      (insertAllBy same right otherPairs) := by
  induction pairsAlike generalizing left right with
  | nil => exact alike
  | cons first _ ih => exact ih (forall₂_insertBy first alike)

end Keyed

end ParameterDrift
