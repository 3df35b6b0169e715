import ParameterDrift.Text.Blank
import ParameterDrift.Text.Case.Table
/-! # Letter case

Methods, parameter locations and type kinds are compared without regard to letter case, by the
full mappings of Unicode. Upper case is taken character by character. Lower case depends on
context in one place: a capital sigma becomes the final form at the end of a word.
-/

namespace ParameterDrift.Text

namespace Case

/-- Whether a row maps a code point. -/
def Row.covers (row : Row) (code : Nat) : Bool :=
  row.first ≤ code && code ≤ row.last && (code - row.first) % row.step == 0

/-- The image of a character under the rows, itself when no row covers it. -/
def mapByRows (rows : List Row) (c : Char) : Char :=
  match rows.find? fun row => row.covers c.toNat with
  | some row => Char.ofNat (c.toNat + row.shift).toNat
  | none => c

/-- Whether a character is skipped when the context of a sigma is looked for. -/
def isIgnorable (c : Char) : Bool :=
  inRanges ignorableRanges c.toNat

/-- Whether a character has case and is not skipped. -/
def isCased (c : Char) : Bool :=
  inRanges casedRanges c.toNat

/-- The lower case of one character apart from its context. -/
def lowerChar (c : Char) : List Char :=
  if c.toNat < 0x80 then [c.toLower]
  else if c = 'İ' then ['i', '\u0307']
  else [mapByRows lowerRows c]

/-- The upper case of one character. -/
def upperChar (c : Char) : List Char :=
  if c.toNat < 0x80 then [c.toUpper]
  else match upperExpansions.lookup c.toNat with
    | some codes => codes.map Char.ofNat
    | none => [mapByRows upperRows c]

/-- Whether the first character that is not skipped has case. -/
def startsCased (text : List Char) : Bool :=
  match text.dropWhile isIgnorable with
  | c :: _ => isCased c
  | [] => false

/-- The lower case of a text that follows another; `afterCased` tells whether the last character
before it that is not skipped has case. -/
def lowerAfter (afterCased : Bool) : List Char → List Char
  | [] => []
  | c :: rest =>
    let image :=
      if c = 'Σ' then [if afterCased && !startsCased rest then 'ς' else 'σ'] else lowerChar c
    image ++ lowerAfter (if isIgnorable c then afterCased else isCased c) rest

end Case

/-- The lower case of a text. -/
def lower (text : List Char) : List Char :=
  Case.lowerAfter false text

/-- The upper case of a text. -/
def upper (text : List Char) : List Char :=
  text.flatMap Case.upperChar

/-- The lower case of a string. -/
def lowerString (s : String) : String :=
  String.ofList (lower s.toList)

/-- The upper case of a string. -/
def upperString (s : String) : String :=
  String.ofList (upper s.toList)

@[simp] theorem toList_lowerString (s : String) : (lowerString s).toList = lower s.toList := by
  simp [lowerString]

@[simp] theorem upper_append (left right : List Char) :
    upper (left ++ right) = upper left ++ upper right :=
  List.flatMap_append

end ParameterDrift.Text
