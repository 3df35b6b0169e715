import ParameterDrift.Number.Numeral
import ParameterDrift.Text.Blank
/-! # Identifiers

The service's language lets an identifier hold any character: a leading quote sets it off from the
keywords, `\u` with a code point in braces stands for a character, and a backslash before any other
character stands for that character. Reading takes two passes: the first replaces all code points,
the second all other escapes, among them those that the first has brought forth.
-/

namespace ParameterDrift.Identifier

/-- A code point beyond the last of Unicode. -/
structure CodePointFault where
  code : Nat
  deriving DecidableEq, Repr

/-- The greatest code point. -/
def lastCodePoint : Nat := 0x10FFFF

/-- The greatest number of digits of a code point. -/
def maxCodePointDigits : Nat := 6

/-- The hexadecimal digits of a code point and what follows its closing brace; a run of no digits,
of too many, or without the brace is no code point. -/
def codePointDigits? (text : List Char) : Option (List Char × List Char) :=
  match text.dropWhile Numeral.isHexDigit with
  | '\x7d' :: rest =>
    if 1 ≤ (text.takeWhile Numeral.isHexDigit).length
        && (text.takeWhile Numeral.isHexDigit).length ≤ maxCodePointDigits then
      some (text.takeWhile Numeral.isHexDigit, rest)
    else none
  | _ => none

/-- The code point that some digits denote. -/
def codePoint (digits : List Char) : Nat :=
  (Numeral.natural? 16 digits).getD 0

/-- The character of a code point. Surrogates have none and become U+FFFD. -/
def character (code : Nat) : Char :=
  if code.isValidChar then Char.ofNat code else '\uFFFD'

/-- What follows a code point is shorter than the text. -/
theorem length_rest_lt {text digits rest : List Char}
    (found : codePointDigits? text = some (digits, rest)) : rest.length < text.length := by
  have shorter : (text.dropWhile Numeral.isHexDigit).length ≤ text.length :=
    (List.dropWhile_suffix _).length_le
  unfold codePointDigits? at found
  split at found
  · rename_i after same
    split at found
    · cases found
      rw [same, List.length_cons] at shorter
      omega
    · cases found
  · cases found

/-- The text with every code point replaced by its character. -/
def replaceCodePoints : List Char → Except CodePointFault (List Char)
  | [] => .ok []
  | '\\' :: 'u' :: '\x7b' :: inner =>
    match _found : codePointDigits? inner with
    | some (digits, after) =>
      if lastCodePoint < codePoint digits then .error ⟨codePoint digits⟩
      else (replaceCodePoints after).map (character (codePoint digits) :: ·)
    | none => (replaceCodePoints ('u' :: '\x7b' :: inner)).map ('\\' :: ·)
  | c :: rest => (replaceCodePoints rest).map (c :: ·)
termination_by text => text.length
decreasing_by
  · have := length_rest_lt _found
    simp only [List.length_cons]
    omega
  all_goals simp

/-- The text with every backslash removed that stands before a character other than a line feed,
and that character kept as it is. -/
def dropBackslashes : List Char → List Char
  | [] => []
  | '\\' :: c :: rest =>
    if c = '\n' then '\\' :: c :: dropBackslashes rest else c :: dropBackslashes rest
  | c :: rest => c :: dropBackslashes rest

/-- The text without a quote in front. -/
def dropQuote : List Char → List Char
  | '\'' :: rest => rest
  | text => text

/-- The plain text of an identifier. -/
def unescape (text : List Char) : Except CodePointFault (List Char) :=
  (replaceCodePoints (dropQuote text)).map dropBackslashes

/-- The plain name that an identifier stands for. -/
def plainName (identifier : String) : Except CodePointFault String :=
  (unescape identifier.toList).map String.ofList

end ParameterDrift.Identifier
