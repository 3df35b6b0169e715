import ParameterDrift.Keyed
import ParameterDrift.Number.Calendar
/-! # Raw document values

What a document holds before it is given a meaning: scalars, lists and mappings. The entries of a
mapping keep the order of the document, since operations and parameters are reported in it. Keys
are scalars of any kind, because a document may use a number or a truth value as a key.

A value of the wrong shape is a fault only where its shape is used: many positions of a document
accept anything.
-/

namespace ParameterDrift

/-- A value without parts. -/
inductive Scalar
  | null
  | bool (b : Bool)
  | int (n : Int)
  | float (x : Double)
  | text (s : String)
  | date (d : Date)
  | moment (m : Moment)
  deriving DecidableEq, Repr

/-- A document value. -/
inductive Raw
  | scalar (s : Scalar)
  | list (items : List Raw)
  | mapping (entries : List (Scalar × Raw))

/-- What a value is used as without being it. -/
inductive ShapeFault
  /-- A field or the entries are asked of a value that is not a mapping. -/
  | notMapping
  /-- Elements are asked of a value that has none. -/
  | notIterable
  /-- An element that stands for an entry does not have two parts. -/
  | notPair
  /-- A list or a mapping stands for a key. -/
  | compositeKey
  /-- A key that is not a text is used as a method. -/
  | methodNotText
  /-- A key that is not a text is used as the name of a setting. -/
  | settingNotText
  deriving DecidableEq, Repr

namespace Scalar

/-- The integer that a key is equal to; truth values count as one and zero. -/
def toInt? : Scalar → Option Int
  | .bool b => some (if b then 1 else 0)
  | .int n => some n
  | .float x => x.toInt?
  | _ => none

/-- Whether two keys are one. Numbers and truth values are compared by value. -/
def sameKey (left right : Scalar) : Bool :=
  left == right ||
    (match left.toInt?, right.toInt? with
      | some m, some n => m == n
      | _, _ => false)

/-- Null, false, the zeros and the empty text count as absent where a default stands in. -/
def isTruthy : Scalar → Bool
  | .null => false
  | .bool b => b
  | .int n => n != 0
  | .float x => !x.isZero
  | .text s => s != ""
  | .date _ => true
  | .moment _ => true

end Scalar

namespace Raw

mutual

/-- Whether two values are equal. -/
def decEq : (left right : Raw) → Decidable (left = right)
  | .scalar s, .scalar t => decidable_of_iff (s = t) (by simp)
  | .list items, .list others =>
    have := itemsDecEq items others
    decidable_of_iff (items = others) (by simp)
  | .mapping entries, .mapping others =>
    have := entriesDecEq entries others
    decidable_of_iff (entries = others) (by simp)
  | .scalar _, .list _ => isFalse (by simp)
  | .scalar _, .mapping _ => isFalse (by simp)
  | .list _, .scalar _ => isFalse (by simp)
  | .list _, .mapping _ => isFalse (by simp)
  | .mapping _, .scalar _ => isFalse (by simp)
  | .mapping _, .list _ => isFalse (by simp)

/-- Whether two lists of values are equal. -/
def itemsDecEq : (left right : List Raw) → Decidable (left = right)
  | [], [] => isTrue rfl
  | [], _ :: _ => isFalse (by simp)
  | _ :: _, [] => isFalse (by simp)
  | item :: rest, other :: others =>
    have := decEq item other
    have := itemsDecEq rest others
    decidable_of_iff (item = other ∧ rest = others) (by simp)

/-- Whether two lists of entries are equal. -/
def entriesDecEq : (left right : List (Scalar × Raw)) → Decidable (left = right)
  | [], [] => isTrue rfl
  | [], _ :: _ => isFalse (by simp)
  | _ :: _, [] => isFalse (by simp)
  | (key, value) :: rest, (otherKey, otherValue) :: others =>
    have := decEq value otherValue
    have := entriesDecEq rest others
    decidable_of_iff ((key = otherKey ∧ value = otherValue) ∧ rest = others) (by simp)

end

instance : DecidableEq Raw := decEq

/-- The null value. -/
@[match_pattern] abbrev null : Raw := .scalar .null

/-- A text value. -/
@[match_pattern] abbrev text (s : String) : Raw := .scalar (.text s)

/-- An integer value. -/
@[match_pattern] abbrev int (n : Int) : Raw := .scalar (.int n)

/-- A truth value. -/
@[match_pattern] abbrev bool (b : Bool) : Raw := .scalar (.bool b)

/-- A mapping from names, in order. -/
def ofFields (fields : List (String × Raw)) : Raw :=
  .mapping (fields.map fun (name, value) => (.text name, value))

/-- Empty values and the scalars that count as absent are not truthy. -/
def isTruthy : Raw → Bool
  | .scalar s => s.isTruthy
  | .list items => !items.isEmpty
  | .mapping entries => !entries.isEmpty

/-- The value under a name among entries. -/
def lookup (name : String) : List (Scalar × Raw) → Option Raw
  | [] => none
  | (.text key, value) :: rest => if key = name then some value else lookup name rest
  | _ :: rest => lookup name rest

/-- The value under a name, when it is truthy. -/
def lookupTruthy (name : String) (entries : List (Scalar × Raw)) : Option Raw :=
  (lookup name entries).filter isTruthy

/-- The entries without those under a name. -/
def without (name : String) (entries : List (Scalar × Raw)) : List (Scalar × Raw) :=
  entries.filter fun (key, _) => key != .text name

/-- The entries of a mapping. -/
def entries? : Raw → Except ShapeFault (List (Scalar × Raw))
  | .mapping entries => .ok entries
  | _ => .error .notMapping

/-- The elements of a value: the items of a list, the keys of a mapping, the characters of a
text. -/
def elements : Raw → Except ShapeFault (List Raw)
  | .list items => .ok items
  | .mapping entries => .ok (entries.map fun (key, _) => .scalar key)
  | .scalar (.text s) => .ok (s.toList.map fun c => .text (String.singleton c))
  | .scalar _ => .error .notIterable

/-- The entry that a value of two elements stands for. -/
def pair (value : Raw) : Except ShapeFault (Scalar × Raw) := do
  match ← value.elements with
  | [.scalar key, item] => .ok (key, item)
  | [_, _] => .error .compositeKey
  | _ => .error .notPair

/-- The entries that a value stands for: its own if it is a mapping, else one for each element. -/
def pairs : Raw → Except ShapeFault (List (Scalar × Raw))
  | .mapping entries => .ok entries
  | value => do (← value.elements).mapM pair

/-- A field that is looked up comes from an entry, so it is smaller than the entries. -/
theorem sizeOf_lookup_lt {name : String} {entries : List (Scalar × Raw)} {value : Raw}
    (found : lookup name entries = some value) : sizeOf value < sizeOf entries := by
  induction entries with
  | nil => simp [lookup] at found
  | cons entry rest ih =>
    obtain ⟨key, here⟩ := entry
    have inRest (deeper : lookup name rest = some value) :
        sizeOf value < sizeOf ((key, here) :: rest) := by
      have := ih deeper
      simp only [List.cons.sizeOf_spec]
      omega
    cases key with
    | text s =>
      simp only [lookup] at found
      split at found
      · cases found
        simp only [List.cons.sizeOf_spec, Prod.mk.sizeOf_spec]
        omega
      · exact inRest found
    | _ => exact inRest (by simpa [lookup] using found)

end Raw

end ParameterDrift
