/-! # Lists keyed in order of first insertion

A keyed list holds one value for each key. Inserting under a key that is present replaces the value
and keeps its place; inserting under a new key appends. So the keys stand in the order in which
they first came, and each carries the value that came last.
-/

namespace ParameterDrift.Keyed

variable {κ : Type} {α : Type}

/-- The list with a value under a key, where `same` tells equal keys. -/
def insertBy (same : κ → κ → Bool) (key : κ) (value : α) : List (κ × α) → List (κ × α)
  | [] => [(key, value)]
  | (present, old) :: rest =>
    if same present key then (present, value) :: rest
    else (present, old) :: insertBy same key value rest

/-- Insert pairs one after the other. -/
def insertAllBy (same : κ → κ → Bool) (entries : List (κ × α)) (pairs : List (κ × α)) :
    List (κ × α) :=
  pairs.foldl (fun entries (key, value) => insertBy same key value entries) entries

variable [BEq κ]

/-- The list with a value under a key. -/
def insert (key : κ) (value : α) (entries : List (κ × α)) : List (κ × α) :=
  insertBy (· == ·) key value entries

/-- The keyed list of pairs that come one after the other. -/
def ofList (pairs : List (κ × α)) : List (κ × α) :=
  insertAllBy (· == ·) [] pairs

/-- The list with a value under a key, unless the key is present. -/
def insertNew (key : κ) (value : α) (entries : List (κ × α)) : List (κ × α) :=
  if entries.any fun (present, _) => present == key then entries else entries ++ [(key, value)]

/-- The keyed list in which each key carries the value that came first. -/
def ofListFirst (pairs : List (κ × α)) : List (κ × α) :=
  pairs.foldl (fun entries (key, value) => insertNew key value entries) []

variable [LawfulBEq κ]

/-- An insertion keeps the order of the keys and appends a new one. -/
theorem keys_insert (key : κ) (value : α) (entries : List (κ × α)) :
    (insert key value entries).map Prod.fst =
      if (entries.map Prod.fst).contains key then entries.map Prod.fst
      else entries.map Prod.fst ++ [key] := by
  unfold insert
  induction entries with
  | nil => simp [insertBy]
  | cons entry rest ih =>
    obtain ⟨present, old⟩ := entry
    by_cases same : present = key
    · subst same
      simp [insertBy]
    · have other : key ≠ present := fun equal => same equal.symm
      simp only [insertBy, beq_iff_eq, same, ↓reduceIte, List.map_cons, ih]
      split <;> simp_all

end ParameterDrift.Keyed
