import ParameterDrift.Number.Numeral
import ParameterDrift.Raw
/-! # Reading JSON

A JSON text is read in two steps. The first takes its characters to tokens. What stands in quotes is
gathered as UTF-16 units, since a character beyond the first plane may be written as the escapes of
two. The second step takes the tokens to a value, with a stack of the lists and mappings that are
not closed yet. Both follow their input one by one, and a text that is no JSON has no value.
-/

namespace ParameterDrift.Json

/-- A part of a JSON text. -/
inductive Token
  | comma
  | colon
  | openList
  | closeList
  | openMapping
  | closeMapping
  | scalar (s : Scalar)
  deriving DecidableEq, Repr

/-! ### Texts in quotes -/

/-- The UTF-16 units of a character. -/
def units (c : Char) : List Nat :=
  if c.toNat < 0x10000 then [c.toNat]
  else [0xD800 + (c.toNat - 0x10000) / 0x400, 0xDC00 + (c.toNat - 0x10000) % 0x400]

/-- Whether a unit is the first half of a pair. -/
def isFirstHalf (unit : Nat) : Bool :=
  0xD800 ≤ unit && unit < 0xDC00

/-- Whether a unit is the second half of a pair. -/
def isSecondHalf (unit : Nat) : Bool :=
  0xDC00 ≤ unit && unit < 0xE000

/-- The characters of some units, if every half has its other half. -/
def decode? : List Nat → Option (List Char)
  | [] => some []
  | unit :: rest =>
    if isFirstHalf unit then
      match rest with
      | [] => none
      | second :: later =>
        if isSecondHalf second then
          (decode? later).map
            (Char.ofNat (0x10000 + (unit - 0xD800) * 0x400 + (second - 0xDC00)) :: ·)
        else none
    else if isSecondHalf unit then none
    else (decode? rest).map (Char.ofNat unit :: ·)

/-- What a character after a backslash stands for, when it is not the start of a unit. -/
def escaped? : Char → Option Char
  | '"' => some '"'
  | '\\' => some '\\'
  | '/' => some '/'
  | 'b' => some '\x08'
  | 'f' => some '\x0c'
  | 'n' => some '\n'
  | 'r' => some '\r'
  | 't' => some '\t'
  | _ => none

/-! ### Words and numbers -/

/-- Whether a character may stand in a number. -/
def isNumberCharacter (c : Char) : Bool :=
  Numeral.isDigit c || ['+', '-', '.', 'e', 'E'].contains c

/-- The number that some characters are; it is whole unless it has a fraction or an exponent. -/
def number? (letters : List Char) : Option Scalar :=
  if letters.any fun c => ['.', 'e', 'E'].contains c then
    if letters.all isNumberCharacter then
      (Numeral.decimal? (letters.map Char.toLower)).map .float
    else none
  else match letters with
    | '-' :: digits => (Numeral.natural? 10 digits).map fun n => .int (-n)
    | digits => (Numeral.natural? 10 digits).map fun n => .int n

/-- The scalar that a word or a number is. -/
def word? (letters : List Char) : Option Scalar :=
  if letters = "null".toList then some .null
  else if letters = "true".toList then some (.bool true)
  else if letters = "false".toList then some (.bool false)
  else number? letters

/-! ### From characters to tokens -/

/-- What the reader is in the middle of. What was read of it stands in reverse. -/
inductive Mode
  | between
  | word (letters : List Char)
  | text (units : List Nat)
  /-- After a backslash in a text. -/
  | escape (units : List Nat)
  /-- In the digits of a unit in a text. -/
  | unit (units : List Nat) (digits : List Char)

/-- Whether a character is a blank between tokens. -/
def isSpace (c : Char) : Bool :=
  c = ' ' || c = '\n' || c = '\r' || c = '\t'

/-- The token that is written as one character. -/
def mark? : Char → Option Token
  | ',' => some .comma
  | ':' => some .colon
  | '[' => some .openList
  | ']' => some .closeList
  | '\x7b' => some .openMapping
  | '\x7d' => some .closeMapping
  | _ => none

/-- Whether a character ends a word before it. -/
def endsWord (c : Char) : Bool :=
  isSpace c || (mark? c).isSome || c = '"'

/-- Read a character between two tokens, and go on in the mode that it leads to. -/
def enter (c : Char) (next : Mode → Option (List Token)) : Option (List Token) :=
  if isSpace c then next .between
  else match mark? c with
    | some token => (next .between).map (token :: ·)
    | none => if c = '"' then next (.text []) else next (.word [c])

/-- The tokens of a text, in the middle of which the reader may be. -/
def tokens? : Mode → List Char → Option (List Token)
  | .between, [] => some []
  | .word letters, [] => (word? letters.reverse).map fun s => [.scalar s]
  | .text _, [] => none
  | .escape _, [] => none
  | .unit _ _, [] => none
  | .between, c :: rest => enter c fun mode => tokens? mode rest
  | .word letters, c :: rest =>
    if endsWord c then
      match word? letters.reverse with
      | some s => (enter c fun mode => tokens? mode rest).map (.scalar s :: ·)
      | none => none
    else tokens? (.word (c :: letters)) rest
  | .text read, c :: rest =>
    if c = '"' then
      match decode? read.reverse with
      | some text => (tokens? .between rest).map (.scalar (.text (String.ofList text)) :: ·)
      | none => none
    else if c = '\\' then tokens? (.escape read) rest
    else if c < ' ' then none
    else tokens? (.text ((units c).reverse ++ read)) rest
  | .escape read, c :: rest =>
    if c = 'u' then tokens? (.unit read []) rest
    else match escaped? c with
      | some character => tokens? (.text (character.toNat :: read)) rest
      | none => none
  | .unit read digits, c :: rest =>
    if digits.length < 3 then tokens? (.unit read (c :: digits)) rest
    else match Numeral.natural? 16 (c :: digits).reverse with
      | some unit => tokens? (.text (unit :: read)) rest
      | none => none

/-! ### From tokens to values -/

/-- A list or a mapping that is not closed, with what was read of it in reverse. -/
inductive Frame
  | list (items : List Raw)
  /-- The name is that of the value that comes next. -/
  | mapping (entries : List (Scalar × Raw)) (name : String)

mutual

/-- The value that begins with the next token. -/
def valueOf? : List Frame → List Token → Option Raw
  | stack, .scalar s :: rest => valueAfter? (.scalar s) stack rest
  | stack, .openList :: .closeList :: rest => valueAfter? (.list []) stack rest
  | stack, .openList :: rest => valueOf? (.list [] :: stack) rest
  | stack, .openMapping :: .closeMapping :: rest => valueAfter? (.mapping []) stack rest
  | stack, .openMapping :: .scalar (.text name) :: .colon :: rest =>
    valueOf? (.mapping [] name :: stack) rest
  | _, _ => none

/-- The value that is complete when what was read last is put in its place. -/
def valueAfter? : Raw → List Frame → List Token → Option Raw
  | value, [], [] => some value
  | value, .list items :: stack, .comma :: rest => valueOf? (.list (value :: items) :: stack) rest
  | value, .list items :: stack, .closeList :: rest =>
    valueAfter? (.list (value :: items).reverse) stack rest
  | value, .mapping entries name :: stack, .comma :: .scalar (.text other) :: .colon :: rest =>
    valueOf? (.mapping ((.text name, value) :: entries) other :: stack) rest
  | value, .mapping entries name :: stack, .closeMapping :: rest =>
    valueAfter? (.mapping ((.text name, value) :: entries).reverse) stack rest
  | _, _, _ => none

end

/-- The value that a JSON text holds, if it is one. -/
def read (text : String) : Option Raw :=
  (tokens? .between text.toList).bind (valueOf? [])

end ParameterDrift.Json
