import ParameterDrift.Text.Printable
/-! # Quoted text

How a text is written where its extent must be visible: between quotes, with everything that is
not printable as an escape. Quotes are single unless the text holds a single quote and no double
one, so that as few characters as possible need an escape.
-/

namespace ParameterDrift.Text

/-- The lower-case hexadecimal digits of a number, at least `width` of them. -/
def hexDigits (width : Nat) (n : Nat) : List Char :=
  let digits := Nat.toDigits 16 n
  List.replicate (width - digits.length) '0' ++ digits

namespace Quoted

/-- The quote character that surrounds a text. -/
def delimiter (text : List Char) : Char :=
  if text.contains '\'' && !text.contains '"' then '"' else '\''

/-- How one character stands between quotes. -/
def escape (quote : Char) (c : Char) : List Char :=
  if c = '\\' || c = quote then ['\\', c]
  else if c = '\t' then ['\\', 't']
  else if c = '\n' then ['\\', 'n']
  else if c = '\r' then ['\\', 'r']
  else if isPrintable c then [c]
  else if c.toNat < 0x100 then '\\' :: 'x' :: hexDigits 2 c.toNat
  else if c.toNat < 0x10000 then '\\' :: 'u' :: hexDigits 4 c.toNat
  else '\\' :: 'U' :: hexDigits 8 c.toNat

end Quoted

/-- A text between quotes. -/
def quoted (text : List Char) : List Char :=
  let quote := Quoted.delimiter text
  quote :: text.flatMap (Quoted.escape quote) ++ [quote]

/-- A string between quotes. -/
def quotedString (s : String) : String :=
  String.ofList (quoted s.toList)

end ParameterDrift.Text
