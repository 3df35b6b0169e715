import ParameterDrift.Number.Double
import ParameterDrift.Text.Case
/-! # Numerals

How the text of a number is read. Integers may be written in the bases two, eight, ten and sixteen
and in base sixty with colons; numbers with a fraction may use base sixty as well. Underscores
separate digits at will. A text that was not recognised as a numeral beforehand, because a tag
demanded a number of it, may fail to be one. Between integers and their decimal digits there is a
limit in both directions: longer numerals are not read, and longer integers are not written.
-/

namespace ParameterDrift

/-- Why a text that must be a number is none. -/
inductive NumeralFault
  /-- Nothing is left of the text besides underscores and a sign. -/
  | empty
  /-- The text is not a numeral. -/
  | malformed
  deriving DecidableEq, Repr

/-- Why a value is not written as a text. -/
inductive WritingFault
  /-- An integer has more decimal digits than are written. -/
  | tooManyDigits
  deriving DecidableEq, Repr

namespace Numeral

/-- The value of a character as a digit, up to base thirty-six. -/
def digitValue? (c : Char) : Option Nat :=
  if '0' ≤ c && c ≤ '9' then some (c.toNat - '0'.toNat)
  else if 'a' ≤ c && c ≤ 'z' then some (c.toNat - 'a'.toNat + 10)
  else if 'A' ≤ c && c ≤ 'Z' then some (c.toNat - 'A'.toNat + 10)
  else none

/-- Whether a character is one of the ten digits. -/
def isDigit (c : Char) : Bool :=
  '0' ≤ c && c ≤ '9'

/-- Whether a character is a hexadecimal digit. -/
def isHexDigit (c : Char) : Bool :=
  isDigit c || ('a' ≤ c && c ≤ 'f') || ('A' ≤ c && c ≤ 'F')

/-- One digit appended to a number. -/
def appendDigit? (base : Nat) (n : Nat) (c : Char) : Option Nat := do
  let digit ← digitValue? c
  if digit < base then some (n * base + digit) else none

/-- The natural number that some digits denote; there must be at least one. -/
def natural? (base : Nat) (digits : List Char) : Option Nat :=
  if digits.isEmpty then none else digits.foldlM (appendDigit? base) 0

/-- The greatest number of decimal digits that are read or written as an integer. -/
def maxDecimalDigits : Nat := 4300

/-- The least natural number with too many decimal digits. -/
def firstUnwritten : Nat := Nat.pow 10 maxDecimalDigits

/-- Whether an integer has no more decimal digits than are written. -/
def isWritable (n : Int) : Bool :=
  n.natAbs < firstUnwritten

/-- The sign in front of a text and the text without it. -/
def splitSign : List Char → Bool × List Char
  | '-' :: rest => (true, rest)
  | '+' :: rest => (false, rest)
  | text => (false, text)

/-- A number of the given sign. -/
def signed (negative : Bool) (n : Nat) : Int :=
  if negative then -(n : Int) else n

/-- A text without the mark that its base may carry: `0b`, `0o` or `0x` in either case. -/
def dropMark (base : Nat) : List Char → List Char
  | '0' :: mark :: rest =>
    let mark := mark.toLower
    if (base = 2 && mark = 'b') || (base = 8 && mark = 'o') || (base = 16 && mark = 'x') then rest
    else '0' :: mark :: rest
  | text => text

/-- An integer in a base, with blanks around it, a sign, and the mark of its base allowed. -/
def integer? (base : Nat) (text : List Char) : Option Int :=
  let (negative, digits) := splitSign (Text.trim text)
  if base = 10 && maxDecimalDigits < digits.length then none
  else (natural? base (dropMark base digits)).map (signed negative)

/-- The pieces of a text between colons. -/
def colonPieces (text : List Char) : List (List Char) :=
  text.foldr (fun c pieces =>
    match c, pieces with
    | ':', pieces => [] :: pieces
    | c, piece :: rest => (c :: piece) :: rest
    | c, [] => [[c]]) [[]]

/-- The integer that a text denotes. -/
def readInteger (text : List Char) : Except NumeralFault Int :=
  let found (base : Nat) (negative : Bool) (digits : List Char) : Except NumeralFault Int :=
    match integer? base digits with
    | some n => .ok (if negative then -n else n)
    | none => .error .malformed
  match text.filter (· ≠ '_') with
  | [] => .error .empty
  | text =>
    let (negative, rest) := splitSign text
    match rest with
    | [] => .error .empty
    | ['0'] => .ok 0
    | '0' :: 'b' :: digits => found 2 negative digits
    | '0' :: 'x' :: digits => found 16 negative digits
    | '0' :: _ => found 8 negative rest
    | _ =>
      if rest.contains ':' then
        match (colonPieces rest).mapM (integer? 10) with
        | some parts =>
          let value := parts.foldl (fun total part => total * 60 + part) 0
          .ok (if negative then -value else value)
        | none => .error .malformed
      else found 10 negative rest

/-- A decimal with optional fraction and exponent, with blanks around it and a sign allowed, or
one of the words for infinity and for no number. -/
def decimal? (text : List Char) : Option Double :=
  let (negative, body) := splitSign (Text.trim text)
  if body = "inf".toList || body = "infinity".toList then some (.infinity negative)
  else if body = "nan".toList then some .nan
  else
    let whole := body.takeWhile isDigit
    let afterWhole := body.dropWhile isDigit
    let (fraction, afterFraction) := match afterWhole with
      | '.' :: rest => (rest.takeWhile isDigit, rest.dropWhile isDigit)
      | rest => ([], rest)
    let exponent? : Option Int := match afterFraction with
      | [] => some 0
      | 'e' :: rest =>
        let (negative, digits) := splitSign rest
        (natural? 10 digits).map (signed negative)
      | _ => none
    match natural? 10 (whole ++ fraction), exponent? with
    | some digits, some exponent => some (.ofDecimal negative digits (exponent - fraction.length))
    | _, _ => none

/-- The number with a fraction that a text denotes. -/
def readDecimal (text : List Char) : Except NumeralFault Double :=
  let withSign (negative : Bool) (x : Double) : Double := if negative then x.neg else x
  match Text.lower (text.filter (· ≠ '_')) with
  | [] => .error .empty
  | text =>
    let (negative, rest) := splitSign text
    if rest = ".inf".toList then .ok (.infinity negative)
    else if rest = ".nan".toList then .ok .nan
    else if rest.contains ':' then
      match (colonPieces rest).mapM decimal? with
      | some parts =>
        let terms := parts.reverse.mapIdx fun place part => part.scale (Nat.pow 60 place)
        .ok (withSign negative (terms.foldl Double.add (.ofInt 0)))
      | none => .error .malformed
    else match decimal? rest with
      | some x => .ok (withSign negative x)
      | none => .error .malformed

end Numeral

end ParameterDrift
