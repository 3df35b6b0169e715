import ParameterDrift.Markup.Cursor
/-! # Text in quotes

Between single quotes a quote is written twice. Between double quotes a backslash starts an escape.
In both, the end of a line counts as a space, and empty lines as ends of lines.
-/

namespace ParameterDrift.Markup.Quote

/-- The escapes of one character. -/
def escapes : List (Char × Char) :=
  [('0', '\x00'), ('a', '\x07'), ('b', '\x08'), ('t', '\t'), ('\t', '\t'), ('n', '\n'),
    ('v', '\x0b'), ('f', '\x0c'), ('r', '\r'), ('e', '\x1b'), (' ', ' '), ('"', '"'),
    ('\\', '\\'), ('/', '/'), ('N', '\x85'), ('_', '\xa0'), ('L', '\u2028'), ('P', '\u2029')]

/-- The number of digits after the escapes of a code point. -/
def codeWidths : List (Char × Nat) :=
  [('x', 2), ('u', 4), ('U', 8)]

/-- The greatest code point. -/
def lastCodePoint : Nat := 0x10FFFF

/-- The number that the next hexadecimal digits denote, when there are enough of them. -/
def code? (width : Nat) (text : List Char) : Option Nat :=
  let digits := text.take width
  if digits.length = width && digits.all Numeral.isHexDigit then Numeral.natural? 16 digits
  else none

/-- The low half of a pair of UTF-16 units, when an escape of one comes next. -/
def lowHalf? : List Char → Option Nat
  | '\\' :: 'u' :: rest => (code? 4 rest).filter fun code => 0xDC00 ≤ code && code ≤ 0xDFFF
  | _ => none

/-- The length of the escape of a low half. -/
def lowHalfLength : Nat := 6

/-- The character of a code point, and how much of what follows belongs to it. Two halves of a pair
make one character; a half alone has none and becomes U+FFFD. -/
def character (code : Nat) (following : List Char) : Char × Nat :=
  if 0xD800 ≤ code && code ≤ 0xDBFF then
    match lowHalf? following with
    | some low => (Char.ofNat (0x10000 + (code - 0xD800) * 0x400 + (low - 0xDC00)), lowHalfLength)
    | none => ('\uFFFD', 0)
  else if 0xDC00 ≤ code && code ≤ 0xDFFF then ('\uFFFD', 0)
  else (Char.ofNat code, 0)

/-- The place after spaces and tabs. -/
def skipWhite (cursor : Cursor) : Cursor :=
  cursor.skip fun c => c == ' ' || c == '\t'

/-- The ends of empty lines, and the place after the spaces of the line that follows them. -/
def emptyLines (cursor : Cursor) : Except Fault (List Char × Cursor) :=
  if cursor.atSeparator then .error (.form .separatorInQuotes)
  else match _found : (skipWhite cursor).lineEnd? with
    | none => .ok ([], skipWhite cursor)
    | some (lineEnd, after) => do
      let (later, last) ← emptyLines after
      .ok (lineEnd :: later, last)
termination_by cursor.rest.length
decreasing_by
  exact Nat.lt_of_lt_of_le (Cursor.length_lineEnd_lt _found) (Cursor.length_skip_le _ _)

/-- What a run of spaces and ends of lines within quotes stands for. -/
def gap (cursor : Cursor) : Except Fault (List Char × Cursor) :=
  let (spaces, cursor) := cursor.span fun c => c == ' ' || c == '\t'
  match cursor.lineEnd? with
  | none => .ok (spaces, cursor)
  | some (lineEnd, after) => do
    let (lines, after) ← emptyLines after
    .ok (Cursor.fold lineEnd lines, after)

/-- What an escape stands for; the place is after its backslash. -/
def escape (cursor : Cursor) : Except Fault (List Char × Cursor) :=
  match cursor.rest with
  | [] => .error (.form .escape)
  | c :: rest =>
    match escapes.lookup c, codeWidths.lookup c with
    | some image, _ => .ok ([image], cursor.advance)
    | none, some width =>
      match code? width rest with
      | none => .error (.form .escape)
      | some code =>
        if lastCodePoint < code then .error (.value .codePoint)
        else
          let (image, more) := character code (rest.drop width)
          .ok ([image], cursor.advanceBy (1 + width + more))
    | none, none =>
      match cursor.lineEnd? with
      | some (_, after) => emptyLines after
      | none => .error (.form .escape)

/-- The text from a place on up to the closing quote, after what was read, latest first. -/
def scanFrom (double : Bool) : Nat → List Char → Cursor → Except Fault (List Char × Cursor)
  | 0, _, _ => .error (.form .openQuote)
  | fuel + 1, text, cursor =>
    let quote := if double then '"' else '\''
    match cursor.rest with
    | [] => .error (.form .openQuote)
    | c :: rest =>
      if c = quote then
        if !double && rest.head? == some quote then
          scanFrom double fuel (quote :: text) (cursor.advanceBy 2)
        else .ok (text.reverse, cursor.advance)
      else if isGap c then do
        let (gap, after) ← gap cursor
        scanFrom double fuel (gap.reverse ++ text) after
      else if double && c = '\\' then do
        let (image, after) ← escape cursor.advance
        scanFrom double fuel (image.reverse ++ text) after
      else scanFrom double fuel (c :: text) cursor.advance

/-- The text between quotes at a place, and the place after it. -/
def scan (double : Bool) (cursor : Cursor) : Except Fault (List Char × Cursor) :=
  scanFrom double cursor.reach [] cursor.advance

end ParameterDrift.Markup.Quote
