import ParameterDrift.Raw.Text
/-! # JSON text of document values

Findings are printed as JSON, in ASCII: every other character is written as one or two escapes of a
UTF-16 unit. Keys that are not texts are written as texts of the same value. A value that holds an
integer of too many digits is not printed at all.
-/

namespace ParameterDrift.Json

/-- The escape of one UTF-16 unit. -/
def unitEscape (unit : Nat) : List Char :=
  '\\' :: 'u' :: Text.hexDigits 4 unit

/-- How one character stands in a JSON text. -/
def escape (c : Char) : List Char :=
  if c = '"' || c = '\\' then ['\\', c]
  else if c = '\n' then ['\\', 'n']
  else if c = '\r' then ['\\', 'r']
  else if c = '\t' then ['\\', 't']
  else if c = '\x0c' then ['\\', 'f']
  else if c = '\x08' then ['\\', 'b']
  else if ' ' ≤ c && c ≤ '~' then [c]
  else if c.toNat < 0x10000 then unitEscape c.toNat
  else
    let beyond := c.toNat - 0x10000
    unitEscape (0xD800 + beyond / 0x400) ++ unitEscape (0xDC00 + beyond % 0x400)

/-- A text as a JSON string. -/
def string (s : String) : String :=
  String.ofList ('"' :: s.toList.flatMap escape ++ ['"'])

/-- The word for null. -/
def nullText : String := "null"

/-- A number as JSON, which has no words for what is not finite. -/
def number : Double → String
  | .finite negative significand exponent =>
    Double.plainLayout.text (.finite negative significand exponent)
  | _ => nullText

/-- A scalar as JSON. -/
def scalar : Scalar → String
  | .null => nullText
  | .bool true => "true"
  | .bool false => "false"
  | .int n => toString n
  | .float x => number x
  | .text s => string s
  | .date d => string d.text
  | .moment m => string m.interchangeText

/-- The key for a scalar that has no text of its own. -/
def nullKey : String := "None"

/-- A scalar as a key of a JSON object. -/
def key : Scalar → String
  | .text s => string s
  | .date d => string d.text
  | .moment m => string m.interchangeText
  | other => string (if scalar other = nullText then nullKey else scalar other)

/-- Spaces and line ends between the parts of a value. Without an indentation all stands on one
line; with one every part has its own. -/
structure Style where
  indentation : Option Nat

/-- Everything on one line. -/
def oneLine : Style := ⟨none⟩

/-- Every part on its own line, two spaces deeper than its whole. -/
def indented : Style := ⟨some 2⟩

/-- The line break and indentation before a part at some depth. -/
def Style.lineBreak (style : Style) (depth : Nat) : String :=
  match style.indentation with
  | none => ""
  | some width => "\n" ++ String.ofList (List.replicate (width * depth) ' ')

/-- Parts between two brackets. -/
def Style.enclose (style : Style) (depth : Nat) (left right : String) (parts : List String) :
    String :=
  if parts.isEmpty then left ++ right
  else
    let separator := match style.indentation with
      | none => ", "
      | some _ => "," ++ style.lineBreak (depth + 1)
    left ++ style.lineBreak (depth + 1) ++ separator.intercalate parts ++
      style.lineBreak depth ++ right

mutual

/-- A value as JSON at some depth. -/
def valueAt (style : Style) (depth : Nat) : Raw → String
  | .scalar s => scalar s
  | .list items => style.enclose depth "[" "]" (itemsAt style (depth + 1) items)
  | .mapping entries => style.enclose depth "\x7b" "\x7d" (entriesAt style (depth + 1) entries)

/-- The items of a list as JSON. -/
def itemsAt (style : Style) (depth : Nat) : List Raw → List String
  | [] => []
  | item :: rest => valueAt style depth item :: itemsAt style depth rest

/-- The entries of a mapping as JSON. -/
def entriesAt (style : Style) (depth : Nat) : List (Scalar × Raw) → List String
  | [] => []
  | (name, value) :: rest =>
    (key name ++ ": " ++ valueAt style depth value) :: entriesAt style depth rest

end

/-- A value as JSON. -/
def render (style : Style) (value : Raw) : String :=
  valueAt style 0 value

/-- A value written as JSON. -/
def written (style : Style) (value : Raw) : Except WritingFault String :=
  if value.isWritable then .ok (render style value) else .error .tooManyDigits

end ParameterDrift.Json
