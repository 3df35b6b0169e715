import ParameterDrift.Raw
import ParameterDrift.Number.Numeral
import ParameterDrift.Text.Blank
/-! # Checking raw values against records

A record states a kind of value for each of its fields. Checking a raw value against a record
yields the record, or every issue there is: all fields are looked at, in the order in which the
record declares them, and an issue tells the way to the offending value by names and indexes.
Fields that the record does not declare are ignored.

Checks are lenient where a value stands for another beyond doubt: a whole number may be written as
a number with a zero fraction, as a truth value or as a numeral, and a truth value as a word.
-/

namespace ParameterDrift

/-- A step on the way from a checked value to one of its parts. -/
inductive Step
  | name (name : String)
  | index (index : Nat)
  deriving DecidableEq, Repr

/-- What is wrong with a value. -/
inductive IssueKind
  | missing
  | notText
  | notInteger
  | unreadableInteger
  | fractionalInteger
  | infiniteInteger
  | oversizedInteger
  | notTruthValue
  | unreadableTruthValue
  | notInEnumeration
  | otherLiteral
  | notList
  | notTuple
  | notSet
  | notDictionary
  | notRecord
  | notVariant
  | variantMissing
  | variantUnknown
  deriving DecidableEq, Repr

/-- Something wrong with the value at the end of a path. -/
structure Issue where
  kind : IssueKind
  path : List Step
  deriving DecidableEq, Repr

/-- A value that passed its check, or the issues that were found. -/
inductive Checked (α : Type)
  | valid (value : α)
  | invalid (issues : List Issue)

namespace Checked

variable {α β : Type}

/-- A single issue at the value itself. -/
def fail (kind : IssueKind) : Checked α :=
  .invalid [⟨kind, []⟩]

/-- The check of a part, seen from its whole. -/
def under (step : Step) : Checked α → Checked α
  | .valid value => .valid value
  | .invalid issues => .invalid (issues.map fun issue => { issue with path := step :: issue.path })

/-- Two checks side by side, with the issues of both. -/
def both (left : Checked (α → β)) (right : Unit → Checked α) : Checked β :=
  match left, right () with
  | .valid f, .valid value => .valid (f value)
  | .valid _, .invalid issues => .invalid issues
  | .invalid issues, .valid _ => .invalid issues
  | .invalid first, .invalid second => .invalid (first ++ second)

instance : Applicative Checked where
  pure := .valid
  seq := both

/-- The value, or the issues as a failure. -/
def toExcept : Checked α → Except (List Issue) α
  | .valid value => .ok value
  | .invalid issues => .error issues

/-! ### Kinds of values -/

/-- A text. -/
def text : Raw → Checked String
  | .scalar (.text s) => .valid s
  | _ => fail .notText

/-- Any value. -/
def anything (value : Raw) : Checked Raw :=
  .valid value

/-- Null, or a value of some kind. -/
def nullable (check : Raw → Checked α) : Raw → Checked (Option α)
  | .scalar .null => .valid none
  | value => some <$> check value

/-- The greatest length of a numeral that is read as an integer. -/
def maxNumeralLength : Nat := 4300

/-- Whether a text is made of digits with single underscores between them. -/
def isDigitRun : List Char → Bool
  | [] => false
  | [c] => Numeral.isDigit c
  | c :: '_' :: rest => Numeral.isDigit c && isDigitRun rest
  | c :: rest => Numeral.isDigit c && isDigitRun rest

/-- The whole number that a text denotes: white space around it, a sign, digits with single
underscores between them, and a point followed by zeros. -/
def numeral? (text : List Char) : Option Int :=
  let trimmed := Text.dropEndWhile Text.isWhiteSpace (text.dropWhile Text.isWhiteSpace)
  let (negative, body) := Numeral.splitSign trimmed
  let whole := body.takeWhile (· ≠ '.')
  let zeroFraction := match body.dropWhile (· ≠ '.') with
    | [] => true
    | _ :: fraction => !fraction.isEmpty && fraction.all (· = '0')
  if isDigitRun whole && zeroFraction then
    (Numeral.natural? 10 (whole.filter (· ≠ '_'))).map (Numeral.signed negative)
  else none

/-- The integers that a number with a fraction may stand for lie strictly between these bounds. -/
def integerReach : Int := Nat.pow 2 63

/-- The integer that a number with a fraction stands for. -/
def integerOfDouble (x : Double) : Checked Int :=
  match x with
  | .finite .. =>
    match x.toInt? with
    | some n =>
      if -integerReach < n && n < integerReach then .valid n else fail .oversizedInteger
    | none => fail .fractionalInteger
  | _ => fail .infiniteInteger

/-- An integer. -/
def integer : Raw → Checked Int
  | .scalar (.int n) => .valid n
  | .scalar (.bool b) => .valid (if b then 1 else 0)
  | .scalar (.float x) => integerOfDouble x
  | .scalar (.text s) =>
    let trimmed := Text.dropEndWhile Text.isWhiteSpace (s.toList.dropWhile Text.isWhiteSpace)
    if maxNumeralLength < (String.ofList trimmed).utf8ByteSize then fail .oversizedInteger
    else match numeral? s.toList with
      | some n => .valid n
      | none => fail .unreadableInteger
  | _ => fail .notInteger

/-- The words for truth, in lower case. -/
def truthWords : List String := ["1", "on", "t", "true", "y", "yes"]

/-- The words for falsehood, in lower case. -/
def falsehoodWords : List String := ["0", "off", "f", "false", "n", "no"]

/-- The truth value that an integer stands for. -/
def truthOfInteger (n : Int) : Checked Bool :=
  if n = 0 then .valid false
  else if n = 1 then .valid true
  else fail .unreadableTruthValue

/-- A truth value. -/
def truth : Raw → Checked Bool
  | .scalar (.bool b) => .valid b
  | .scalar (.int n) => truthOfInteger n
  | .scalar (.float x) =>
    match integerOfDouble x with
    | .valid n => truthOfInteger n
    | .invalid _ => fail .notTruthValue
  | .scalar (.text s) =>
    let word := String.ofList (s.toList.map Char.toLower)
    if truthWords.contains word then .valid true
    else if falsehoodWords.contains word then .valid false
    else fail .unreadableTruthValue
  | _ => fail .notTruthValue

/-- One of some values, each of which has a name. -/
def named (kind : IssueKind) (choices : List (String × α)) : Raw → Checked α
  | .scalar (.text s) =>
    match choices.lookup s with
    | some value => .valid value
    | none => fail kind
  | _ => fail kind

/-- Items checked one by one, the first of them at an index. -/
def itemsFrom (check : Raw → Checked α) (index : Nat) : List Raw → Checked (List α)
  | [] => .valid []
  | item :: rest =>
    List.cons <$> (check item).under (.index index) <*> itemsFrom check (index + 1) rest

/-- A list of values of some kind; `kind` is the issue when there is no list. -/
def items (kind : IssueKind) (check : Raw → Checked α) : Raw → Checked (List α)
  | .list values => itemsFrom check 0 values
  | _ => fail kind

/-- Entries checked one by one. -/
def entriesFrom (check : Raw → Checked α) : List (Scalar × Raw) → Checked (List (Scalar × α))
  | [] => .valid []
  | (key, value) :: rest =>
    let step := match key with
      | .text name => .name name
      | _ => .name ""
    (fun checked others => (key, checked) :: others) <$> (check value).under step
      <*> entriesFrom check rest

/-- A mapping from texts to values of some kind. -/
def dictionary (check : Raw → Checked α) : Raw → Checked (List (String × α))
  | .mapping entries =>
    (fun checked => checked.filterMap fun (key, value) => match key with
      | .text name => some (name, value)
      | _ => none) <$> entriesFrom check entries
  | _ => fail .notDictionary

/-! ### Fields -/

/-- A field that must be there. -/
def field (name : String) (check : Raw → Checked α) (entries : List (Scalar × Raw)) :
    Checked α :=
  match Raw.lookup name entries with
  | some value => (check value).under (.name name)
  | none => (fail .missing).under (.name name)

/-- A field with a default. -/
def fieldOr (name : String) (default : α) (check : Raw → Checked α)
    (entries : List (Scalar × Raw)) : Checked α :=
  match Raw.lookup name entries with
  | some value => (check value).under (.name name)
  | none => .valid default

/-- A record, whose fields are checked among its entries. -/
def record (fields : List (Scalar × Raw) → Checked α) : Raw → Checked α
  | .mapping entries => fields entries
  | _ => fail .notRecord

end Checked

end ParameterDrift
