import ParameterDrift.Markup.Node
import ParameterDrift.Number.Calendar
/-! # The natural kinds of plain text

Plain text without a tag is null, a truth value, a number, a date or a time when it is written like
one. Everything else is text. Two marks have kinds of their own: one merges mappings, the other
stands for the main value of a mapping.
-/

namespace ParameterDrift.Markup

/-- The kinds of nodes. -/
inductive NodeKind
  | null
  | truth
  | integer
  | decimal
  | moment
  | text
  | sequence
  | mapping
  | merge
  | mainValue
  deriving DecidableEq, Repr

namespace NodeKind

/-- What the names of the kinds start with. -/
def nameStart : String := "tag:yaml.org,2002:"

/-- The kinds by name. -/
def byName : List (String × NodeKind) :=
  [("null", null), ("bool", truth), ("int", integer), ("float", decimal), ("timestamp", moment),
    ("str", text), ("seq", sequence), ("map", mapping), ("merge", merge),
    ("value", mainValue)].map fun (name, kind) => (nameStart ++ name, kind)

/-! ### Texts as they are written -/

/-- The ways to write null. -/
def nullWords : List String := ["", "~", "null", "Null", "NULL"]

/-- The words for truth values, in lower case. -/
def truthWords : List (String × Bool) :=
  [("yes", true), ("no", false), ("true", true), ("false", false), ("on", true), ("off", false)]

/-- A word in lower case, with a capital in front, and in capitals. -/
def spellings (word : String) : List String :=
  [word, String.ofList (match word.toList with
    | [] => []
    | c :: rest => c.toUpper :: rest), String.ofList (word.toList.map Char.toUpper)]

/-- Whether a text is one of the words for truth values. -/
def isTruthWord (text : String) : Bool :=
  truthWords.any fun (word, _) => (spellings word).contains text

/-- Whether a text is not empty and made of some characters. -/
def isRun (class? : Char → Bool) (text : List Char) : Bool :=
  !text.isEmpty && text.all class?

/-- Whether a character is a digit or separates digits. -/
def isDigitOrMark (c : Char) : Bool :=
  Numeral.isDigit c || c == '_'

/-- Whether a text starts with a digit and goes on with digits and marks between them. -/
def isDigits : List Char → Bool
  | c :: rest => Numeral.isDigit c && rest.all isDigitOrMark
  | [] => false

/-- Whether a text is a place of base sixty: one digit, or two of which the first is below six. -/
def isSexagesimal : List Char → Bool
  | [c] => Numeral.isDigit c
  | [c, d] => '0' ≤ c && c ≤ '5' && Numeral.isDigit d
  | _ => false

/-- Whether a text is written as an integer without its sign. -/
def isUnsignedInteger : List Char → Bool
  | ['0'] => true
  | '0' :: 'b' :: digits => isRun (fun c => c == '0' || c == '1' || c == '_') digits
  | '0' :: 'x' :: digits => isRun (fun c => Numeral.isHexDigit c || c == '_') digits
  | '0' :: digits => isRun (fun c => ('0' ≤ c && c ≤ '7') || c == '_') digits
  | digits =>
    match Numeral.colonPieces digits with
    | whole :: places => isDigits whole && places.all isSexagesimal
    | [] => false

/-- Whether a text is written as an integer. -/
def isInteger (text : List Char) : Bool :=
  isUnsignedInteger (Numeral.splitSign text).2

/-- Whether a text is empty or an exponent, which must have a sign. -/
def isExponent : List Char → Bool
  | [] => true
  | mark :: sign :: digits =>
    (mark == 'e' || mark == 'E') && (sign == '-' || sign == '+') && isRun Numeral.isDigit digits
  | _ => false

/-- Whether a text is written as a number with a point: digits before the point, and after it
digits and an exponent; or places of base sixty before it and digits after it. -/
def isPointed (text : List Char) : Bool :=
  let whole := text.takeWhile (· ≠ '.')
  match text.dropWhile (· ≠ '.') with
  | [] => false
  | _ :: rest =>
    let exponent := rest.dropWhile isDigitOrMark
    match Numeral.colonPieces whole with
    | [whole] => isDigits whole && isExponent exponent
    | whole :: places => isDigits whole && places.all isSexagesimal && exponent.isEmpty
    | [] => false

/-- Whether a text is written as a number with a fraction. A number that starts with its point has
no sign, and neither has the word for no number. -/
def isDecimal (text : List Char) : Bool :=
  let unsigned := (Numeral.splitSign text).2
  [".inf", ".Inf", ".INF"].contains (String.ofList unsigned) ||
    [".nan", ".NaN", ".NAN"].contains (String.ofList text) || isPointed unsigned ||
    (match text with
      | '.' :: rest =>
        isDigits (rest.takeWhile isDigitOrMark) && isExponent (rest.dropWhile isDigitOrMark)
      | _ => false)

end NodeKind

/-! ### Dates and times -/

namespace Parts

/-- The number of some digits at the start of a text, at least and at most so many, and the rest. -/
def number? (least most : Nat) (text : List Char) : Option (Nat × List Char) :=
  let digits := (text.take most).takeWhile Numeral.isDigit
  if digits.length < least then none
  else (Numeral.natural? 10 digits).map fun n => (n, text.drop digits.length)

/-- The rest of a text after a character. -/
def after? (c : Char) : List Char → Option (List Char)
  | first :: rest => if first = c then some rest else none
  | [] => none

/-- Whether a character is a space or a tab. -/
def isWhite (c : Char) : Bool :=
  c == ' ' || c == '\t'

/-- The date at the start of a text, and the rest; months and days have `least` digits or more. -/
def date? (least : Nat) (text : List Char) : Option (Date × List Char) := do
  let (year, rest) ← number? 4 4 text
  let (month, rest) ← number? least 2 (← after? '-' rest)
  let (day, rest) ← number? least 2 (← after? '-' rest)
  some (⟨year, month, day⟩, rest)

/-- What separates a date from a time: a letter, or spaces and tabs. -/
def separated? : List Char → Option (List Char)
  | [] => none
  | c :: rest =>
    if c = 'T' || c = 't' then some rest
    else if isWhite c then some (rest.dropWhile isWhite)
    else none

/-- The digits of a fraction of a second, as microseconds. -/
def microseconds (digits : List Char) : Nat :=
  let shown := digits.take 6
  (Numeral.natural? 10 (shown ++ List.replicate (6 - shown.length) '0')).getD 0

/-- The distance from universal time that the rest of a text tells, in minutes. -/
def offset? (text : List Char) : Option (Option Int) :=
  if text.isEmpty then some none
  else
    match text.dropWhile isWhite with
    | ['Z'] => some (some 0)
    | sign :: rest => do
      if sign ≠ '-' && sign ≠ '+' then none
      else
        let (hours, rest) ← number? 1 2 rest
        let (minutes, rest) ← match after? ':' rest with
          | some rest => number? 2 2 rest
          | none => some (0, rest)
        if !rest.isEmpty then none
        else
          let distance : Int := hours * 60 + minutes
          some (some (if sign = '-' then -distance else distance))
    | [] => none

/-- The moment that a text tells on some date; the text is what follows the date. -/
def moment? (date : Date) (text : List Char) : Option Moment := do
  let (hour, rest) ← number? 1 2 (← separated? text)
  let (minute, rest) ← number? 2 2 (← after? ':' rest)
  let (second, rest) ← number? 2 2 (← after? ':' rest)
  let (fraction, rest) := match after? '.' rest with
    | some rest => (rest.takeWhile Numeral.isDigit, rest.dropWhile Numeral.isDigit)
    | none => ([], rest)
  let offset ← offset? rest
  some ⟨date, hour, minute, second, microseconds fraction, offset⟩

end Parts

/-- The date or the moment that a text is written as, whether or not the calendar has it. -/
def dateOrMoment? (text : List Char) : Option (Date ⊕ Moment) := do
  let (date, rest) ← Parts.date? 1 text
  if rest.isEmpty then some (.inl date) else (Parts.moment? date rest).map .inr

namespace NodeKind

/-- Whether plain text is written as a date or a moment. A date alone has two digits for month and
day. -/
def isMoment (text : List Char) : Bool :=
  match Parts.date? 2 text with
  | some (_, []) => true
  | _ => match dateOrMoment? text with
    | some (.inr _) => true
    | _ => false

/-- The natural kind of plain text. -/
def ofPlain (text : String) : NodeKind :=
  if nullWords.contains text then null
  else if isTruthWord text then truth
  else if isInteger text.toList then integer
  else if isDecimal text.toList then decimal
  else if isMoment text.toList then moment
  else if text = "<<" then merge
  else if text = "=" then mainValue
  else NodeKind.text

end NodeKind

end ParameterDrift.Markup
