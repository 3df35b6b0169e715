import ParameterDrift.Proofs.Keyed
import ParameterDrift.Raw
/-! # Looking up in changed entries

A name is looked up among the entries of a mapping, and the first entry that has it counts. So a
change of the values, of some entries or of those at the end shows at the names that it is about
and at no other.
-/

namespace ParameterDrift.Raw

variable {name other : String} {entries : List (Scalar × Raw)}

/-- The entries with each value changed in a way that may depend on its key. -/
def mapEntries (change : Scalar → Raw → Raw) (entries : List (Scalar × Raw)) :
    List (Scalar × Raw) :=
  entries.map fun (key, value) => (key, change key value)

/-- The entries with the values under a name changed. -/
def changeField (name : String) (change : Raw → Raw) : List (Scalar × Raw) → List (Scalar × Raw) :=
  mapEntries fun key value => if key = .text name then change value else value

@[simp] theorem lookup_nil : lookup name [] = none := rfl

/-- An entry counts when it has the name; the others are passed over. -/
theorem lookup_cons (name : String) (key : Scalar) (value : Raw) (rest : List (Scalar × Raw)) :
    lookup name ((key, value) :: rest) =
      if key = .text name then some value else lookup name rest := by
  cases key with
  | text text => simp only [lookup, Scalar.text.injEq]
  | _ => simp [lookup]

/-- Changing all values changes the one that is found. -/
theorem lookup_mapEntries (change : Scalar → Raw → Raw) (name : String)
    (entries : List (Scalar × Raw)) :
    lookup name (mapEntries change entries) = (lookup name entries).map (change (.text name)) := by
  induction entries with
  | nil => rfl
  | cons entry rest ih =>
    obtain ⟨key, value⟩ := entry
    rw [mapEntries, List.map_cons, lookup_cons, lookup_cons, ← mapEntries, ih]
    split
    · next named => rw [named, Option.map_some]
    · rfl

/-- Changing a field changes what is found under its name. -/
theorem lookup_changeField_self (name : String) (change : Raw → Raw)
    (entries : List (Scalar × Raw)) :
    lookup name (changeField name change entries) = (lookup name entries).map change := by
  rw [changeField, lookup_mapEntries]
  simp only [↓reduceIte]

/-- Under other names the same is found. -/
theorem lookup_changeField_of_ne (change : Raw → Raw) (different : other ≠ name)
    (entries : List (Scalar × Raw)) :
    lookup other (changeField name change entries) = lookup other entries := by
  have unchanged : ¬ Scalar.text other = .text name :=
    fun same => different (Scalar.text.inj same)
  rw [changeField, lookup_mapEntries]
  simp only [unchanged, ↓reduceIte, Option.map_id']

/-- The first of two lists of entries goes first. -/
theorem lookup_append (name : String) (left right : List (Scalar × Raw)) :
    lookup name (left ++ right) = (lookup name left).or (lookup name right) := by
  induction left with
  | nil => rfl
  | cons entry rest ih =>
    obtain ⟨key, value⟩ := entry
    rw [List.cons_append, lookup_cons, lookup_cons, ih]
    split
    · rfl
    · rfl

/-- Choosing entries by their keys keeps what is under a chosen name. -/
theorem lookup_filter_of_pos (chosen : Scalar → Bool) (isChosen : chosen (.text name) = true)
    (entries : List (Scalar × Raw)) :
    lookup name (entries.filter fun entry => chosen entry.1) = lookup name entries := by
  induction entries with
  | nil => rfl
  | cons entry rest ih =>
    obtain ⟨key, value⟩ := entry
    rw [List.filter_cons, lookup_cons]
    by_cases named : key = .text name
    · rw [if_pos named, named, if_pos isChosen, lookup_cons, if_pos rfl]
    · rw [if_neg named]
      split
      · rw [lookup_cons, if_neg named, ih]
      · exact ih

/-- Nothing is found under a name that was filtered out. -/
theorem lookup_filter_of_neg (chosen : Scalar → Bool) (notChosen : chosen (.text name) = false)
    (entries : List (Scalar × Raw)) :
    lookup name (entries.filter fun entry => chosen entry.1) = none := by
  induction entries with
  | nil => rfl
  | cons entry rest ih =>
    obtain ⟨key, value⟩ := entry
    rw [List.filter_cons]
    split
    · next kept =>
      have other : key ≠ .text name := by
        rintro rfl
        rw [notChosen] at kept
        cases kept
      rw [lookup_cons, if_neg other, ih]
    · exact ih

/-- A field that was taken out is not found. -/
theorem lookup_without_self (name : String) (entries : List (Scalar × Raw)) :
    lookup name (without name entries) = none := by
  refine lookup_filter_of_neg (fun key => key != .text name) ?_ entries
  simp

/-- The others are found as before. -/
theorem lookup_without_of_ne (different : other ≠ name) (entries : List (Scalar × Raw)) :
    lookup other (without name entries) = lookup other entries := by
  refine lookup_filter_of_pos (fun key => key != .text name) ?_ entries
  simpa using different

/-- Where a change keeps what is truthy, it shows in what is truthy under a name. -/
theorem lookupTruthy_of_lookup_map {changed : List (Scalar × Raw)} {change : Raw → Raw}
    (found : lookup name changed = (lookup name entries).map change)
    (keeps : ∀ value, (change value).isTruthy = value.isTruthy) :
    lookupTruthy name changed = (lookupTruthy name entries).map change := by
  rw [lookupTruthy, lookupTruthy, found]
  cases lookup name entries with
  | none => rfl
  | some value =>
    rw [Option.map_some, Option.filter_some, Option.filter_some, keeps]
    split
    · rfl
    · rfl

/-- A name is looked up like any other key. -/
theorem lookup_eq_lookup (name : String) (entries : List (Scalar × Raw)) :
    lookup name entries = entries.lookup (.text name) := by
  induction entries with
  | nil => rfl
  | cons entry rest ih =>
    obtain ⟨key, value⟩ := entry
    rw [lookup_cons, List.lookup_cons, ih]
    by_cases named : key = .text name
    · simp [named]
    · rw [if_neg named, beq_eq_false_iff_ne.mpr (Ne.symm named)]

/-- The order of entries with distinct keys does not matter. -/
theorem lookup_eq_of_perm {others : List (Scalar × Raw)} (perm : entries.Perm others)
    (distinct : (entries.map Prod.fst).Nodup) (name : String) :
    lookup name entries = lookup name others := by
  rw [lookup_eq_lookup, lookup_eq_lookup, Keyed.lookup_eq_of_perm perm distinct]

/-- A truthy value that is found counts. -/
theorem lookupTruthy_of_lookup {value : Raw} (found : lookup name entries = some value)
    (truthy : value.isTruthy = true) : lookupTruthy name entries = some value := by
  rw [lookupTruthy, found, Option.filter_some, if_pos truthy]

/-- What is truthy under a name depends on what is under it. -/
theorem lookupTruthy_congr {others : List (Scalar × Raw)}
    (same : lookup name others = lookup name entries) :
    lookupTruthy name others = lookupTruthy name entries := by
  rw [lookupTruthy, lookupTruthy, same]

/-- A value that counts is found. -/
theorem lookup_of_lookupTruthy {value : Raw} (shown : lookupTruthy name entries = some value) :
    lookup name entries = some value :=
  (Option.filter_eq_some_iff.mp shown).1

end ParameterDrift.Raw
