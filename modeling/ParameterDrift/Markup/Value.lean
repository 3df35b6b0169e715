import ParameterDrift.Markup.Natural
import ParameterDrift.Keyed
import ParameterDrift.Raw
/-! # The value of a node

A node is given a value by its kind. What is merged into a mapping comes before its own entries,
and of several merged mappings the last comes first; later entries win, and each key keeps its
first place. A key must be a single value. Values are made level by level, so of several faults the
one nearest to the root counts, and among equals the first in the document.
-/

namespace ParameterDrift.Markup

/-! ### Faults at a depth -/

/-- A fault at some depth of a document. -/
structure DeepFault where
  depth : Nat
  fault : Fault

/-- A value, or the fault of it that counts. -/
abbrev Deep (α : Type) := Except DeepFault α

namespace Deep

/-- A fault at the place itself. -/
def fail {α : Type} (fault : FormFault) : Deep α :=
  .error ⟨0, .form fault⟩

/-- A result whose fault lies at the place itself. -/
def here {α : Type} (result : Except Fault α) : Deep α :=
  result.mapError fun fault => ⟨0, fault⟩

/-- A result of something one level deeper. -/
def inside {α : Type} (result : Deep α) : Deep α :=
  result.mapError fun deep => { deep with depth := deep.depth + 1 }

/-- Two values, or of two faults the one nearer to the root, the first of equals. -/
def both {α β : Type} (first : Deep α) (second : Deep β) : Deep (α × β) :=
  match first, second with
  | .ok a, .ok b => .ok (a, b)
  | .error fault, .ok _ => .error fault
  | .ok _, .error fault => .error fault
  | .error left, .error right => .error (if right.depth < left.depth then right else left)

/-- All values, or the fault nearest to the root, the first of equals. -/
def all {α : Type} : List (Deep α) → Deep (List α)
  | [] => .ok []
  | first :: rest => (both first (all rest)).map fun (value, values) => value :: values

end Deep

/-! ### Values -/

namespace Node

/-- The kind of a node, if it is known. -/
def kind? : Node → Option NodeKind
  | .scalar .natural plain text => some (if plain then NodeKind.ofPlain text else .text)
  | .sequence .natural _ => some .sequence
  | .mapping .natural _ => some .mapping
  | .scalar (.named name) _ _ => NodeKind.byName.lookup name
  | .sequence (.named name) _ => NodeKind.byName.lookup name
  | .mapping (.named name) _ => NodeKind.byName.lookup name

/-- Whether a node is of some kind. -/
def isOf (kind : NodeKind) (node : Node) : Bool :=
  node.kind? == some kind

/-- The date or moment of a text. -/
def momentOf (text : String) : Except Fault Scalar :=
  match dateOrMoment? text.toList with
  | none => .error (.value .notMoment)
  | some (.inl date) => if date.isOnCalendar then .ok (.date date) else .error (.value .offCalendar)
  | some (.inr moment) =>
    if moment.isOnCalendar then .ok (.moment moment) else .error (.value .offCalendar)

/-- The value of a text of some kind. -/
def scalarOf (kind : NodeKind) (text : String) : Except Fault Scalar :=
  let numeral {α : Type} (result : Except NumeralFault α) : Except Fault α :=
    result.mapError fun fault => .value (.numeral fault)
  match kind with
  | .null => .ok .null
  | .truth =>
    match NodeKind.truthWords.lookup (Text.lowerString text) with
    | some b => .ok (.bool b)
    | none => .error (.value .truthWord)
  | .integer => (numeral (Numeral.readInteger text.toList)).map .int
  | .decimal => (numeral (Numeral.readDecimal text.toList)).map .float
  | .moment => momentOf text
  | .text => .ok (.text text)
  | .merge => .error (.form .unknownTag)
  | .mainValue => .error (.form .unknownTag)
  | .sequence => .error (.form .otherKind)
  | .mapping => .error (.form .otherKind)

/-- The value of a key. The mark of the main value is a text there. -/
def keyOf (key : Node) : Deep Scalar :=
  match key, key.kind? with
  | _, none => Deep.fail .unknownTag
  | .scalar _ _ text, some kind =>
    if kind = .mainValue then .ok (.text text)
    else if kind = .sequence || kind = .mapping then Deep.fail .compositeKey
    else Deep.here (scalarOf kind text)
  | _, some _ => Deep.fail .compositeKey

mutual

/-- The text of a node that must have one: a mapping has that of its main value. -/
def textOf : Node → Except Fault String
  | .scalar _ _ text => .ok text
  | .mapping _ entries => mainText entries
  | .sequence .. => .error (.form .otherKind)

/-- The text of the first main value among some entries. -/
def mainText : List (Node × Node) → Except Fault String
  | [] => .error (.form .otherKind)
  | (key, value) :: rest => if key.isOf .mainValue then textOf value else mainText rest

end

/-- What is merged into a mapping, in front of its own entries. -/
def inOrder {α : Type} (parts : List α × List α) : List α :=
  parts.1 ++ parts.2

mutual

/-- The value of a node. -/
def value (node : Node) : Deep Raw :=
  match node, node.kind? with
  | _, none => Deep.fail .unknownTag
  | .sequence _ items, some .sequence => Deep.inside ((Deep.all (itemValues items)).map Raw.list)
  | _, some .sequence => Deep.inside (Deep.fail .otherKind)
  | .mapping _ entries, some .mapping => Deep.inside do
    let pairs ← Deep.all (inOrder (← Deep.here (parts entries)))
    .ok (Raw.mapping (Keyed.insertAllBy Scalar.sameKey [] pairs))
  | _, some .mapping => Deep.inside (Deep.fail .otherKind)
  | node, some kind => (Deep.here (do scalarOf kind (← node.textOf))).map Raw.scalar

/-- The values of some nodes. -/
def itemValues : List Node → List (Deep Raw)
  | [] => []
  | item :: rest => value item :: itemValues rest

/-- What is merged into a mapping, and its own entries. -/
def parts : List (Node × Node) →
    Except Fault (List (Deep (Scalar × Raw)) × List (Deep (Scalar × Raw)))
  | [] => .ok ([], [])
  | (key, item) :: rest => do
    if key.isOf .merge then
      let first ← merged item
      let (others, own) ← parts rest
      .ok (first ++ others, own)
    else
      let (others, own) ← parts rest
      .ok (others, Deep.both (keyOf key) (value item) :: own)

/-- The entries of a node that is merged: a mapping, or a sequence of mappings. -/
def merged : Node → Except Fault (List (Deep (Scalar × Raw)))
  | .mapping _ entries => (parts entries).map inOrder
  | .sequence _ items => (mergedItems items).map fun groups => groups.reverse.flatten
  | .scalar .. => .error (.form .merge)

/-- The entries of each of some mappings that are merged. -/
def mergedItems : List Node → Except Fault (List (List (Deep (Scalar × Raw))))
  | [] => .ok []
  | .mapping _ entries :: rest => do
    let group ← parts entries
    let groups ← mergedItems rest
    .ok (inOrder group :: groups)
  | _ :: _ => .error (.form .merge)

end

end Node

end ParameterDrift.Markup
