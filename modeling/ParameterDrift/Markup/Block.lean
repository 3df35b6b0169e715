import ParameterDrift.Markup.Cursor
/-! # Text in blocks

A block of text follows a bar or an arrow and is set off by its indentation. After a bar the lines
stand as they are; after an arrow they are folded, except where they are indented further. The
header tells what becomes of the ends of lines at the end of the block, and may fix the indentation.
-/

namespace ParameterDrift.Markup

/-- What becomes of the ends of lines at the end of a block. -/
inductive Chomping
  /-- None is kept. -/
  | strip
  /-- The first is kept. -/
  | clip
  /-- All are kept. -/
  | keep
  deriving DecidableEq

/-- The header of a block. -/
structure BlockHeader where
  chomping : Chomping := .clip
  /-- The indentation beyond that of the whole, if the header fixes it. -/
  indentation : Option Nat := none

namespace BlockHeader

/-- The rule that a sign stands for. -/
def chomping? (c : Char) : Option Chomping :=
  if c = '+' then some .keep else if c = '-' then some .strip else none

/-- The digit that comes next, which must not be zero, and the place after it. -/
def digit? (cursor : Cursor) : Except Fault (Option Nat × Cursor) :=
  match cursor.head? with
  | none => .ok (none, cursor)
  | some c =>
    if Numeral.isDigit c then
      if c = '0' then .error (.form .blockHeader) else .ok (Numeral.digitValue? c, cursor.advance)
    else .ok (none, cursor)

/-- The sign that comes next, and the place after it. -/
def sign? (cursor : Cursor) : Option Chomping × Cursor :=
  match cursor.head?.bind chomping? with
  | some chomping => (some chomping, cursor.advance)
  | none => (none, cursor)

/-- The header at a place, and the place on the line after it. A sign and a digit come in either
order. -/
def scan (cursor : Cursor) : Except Fault (BlockHeader × Cursor) := do
  let (first, cursor) := sign? cursor
  let (indentation, cursor) ← digit? cursor
  let (last, cursor) :=
    if first.isNone && indentation.isSome then sign? cursor else (none, cursor)
  if !cursor.atSpaceOrEnd then .error (.form .blockHeader)
  else
    let cursor := cursor.skipComment
    match cursor.head?, cursor.lineEnd? with
    | none, _ => .ok (⟨(first.or last).getD .clip, indentation⟩, cursor)
    | _, some (_, after) => .ok (⟨(first.or last).getD .clip, indentation⟩, after)
    | _, none => .error (.form .blockHeader)

end BlockHeader

namespace Block

/-- The place after spaces before a column. -/
def skipIndent (indent : Nat) (cursor : Cursor) : Cursor :=
  cursor.advanceBy ((cursor.rest.take (indent - cursor.column)).takeWhile (· == ' ')).length

theorem length_skipIndent_le (indent : Nat) (cursor : Cursor) :
    (skipIndent indent cursor).rest.length ≤ cursor.rest.length :=
  Cursor.length_advanceBy_le _ _

/-- The ends of empty lines, and the place after the indentation of the line that follows them. -/
def emptyLines (indent : Nat) (cursor : Cursor) : List Char × Cursor :=
  match _found : (skipIndent indent cursor).lineEnd? with
  | none => ([], skipIndent indent cursor)
  | some (lineEnd, after) =>
    let (later, last) := emptyLines indent after
    (lineEnd :: later, last)
termination_by cursor.rest.length
decreasing_by
  exact Nat.lt_of_lt_of_le (Cursor.length_lineEnd_lt _found) (length_skipIndent_le indent cursor)

/-- The ends of the lines before the first that is not empty, the greatest indentation among them,
and the place after them. -/
def leadingLines (greatest : Nat) (cursor : Cursor) : List Char × Nat × Cursor :=
  match _here : cursor.rest with
  | [] => ([], greatest, cursor)
  | c :: _ =>
    if c = ' ' then leadingLines (max greatest cursor.advance.column) cursor.advance
    else match _found : cursor.lineEnd? with
      | none => ([], greatest, cursor)
      | some (lineEnd, after) =>
        let (later, indent, last) := leadingLines greatest after
        (lineEnd :: later, indent, last)
termination_by cursor.rest.length
decreasing_by
  · exact Cursor.length_advance_lt _here
  · exact Cursor.length_lineEnd_lt _found

/-- Whether a space or a tab comes next. -/
def atWhite (cursor : Cursor) : Bool :=
  cursor.startsWith ' ' || cursor.startsWith '\t'

/-- The lines of a block from a place on: their text, the end of the last line, the empty lines
after it, and the place after all. `pending` is what stands before the next line. -/
def linesFrom (folded : Bool) (indent : Nat) :
    Nat → List Char → List Char → Cursor → List Char × List Char × List Char × Cursor
  | 0, text, _, cursor => (text, [], [], cursor)
  | fuel + 1, text, pending, cursor =>
    let leading := !atWhite cursor
    let (line, cursor) := cursor.span fun c => !isBreak c
    let text := text ++ pending ++ line
    let (lineEnd, cursor) := match cursor.lineEnd? with
      | some (c, after) => ([c], after)
      | none => ([], cursor)
    let (empty, cursor) := emptyLines indent cursor
    if cursor.column = indent && cursor.head?.isSome then
      let joint :=
        if folded && lineEnd == ['\n'] && leading && !atWhite cursor then
          (if empty.isEmpty then [' '] else [])
        else lineEnd
      linesFrom folded indent fuel text (joint ++ empty) cursor
    else (text, lineEnd, empty, cursor)

/-- The text of a block at a place, and the place after it. `indent` is the indentation of the
whole. -/
def scan (indent : Int) (cursor : Cursor) : Except Fault (List Char × Cursor) := do
  let folded := cursor.startsWith '>'
  let (header, cursor) ← BlockHeader.scan cursor.advance
  let least := (max (indent + 1) 1).toNat
  let (empty, indent, cursor) := match header.indentation with
    | some more =>
      let (empty, cursor) := emptyLines (least + more - 1) cursor
      (empty, least + more - 1, cursor)
    | none =>
      let (empty, deepest, cursor) := leadingLines 0 cursor
      (empty, max least deepest, cursor)
  let (text, lineEnd, trailing, cursor) :=
    if cursor.column = indent && cursor.head?.isSome then
      linesFrom folded indent cursor.reach [] empty cursor
    else ([], [], empty, cursor)
  let ending := match header.chomping with
    | .strip => []
    | .clip => lineEnd
    | .keep => lineEnd ++ trailing
  .ok (text ++ ending, cursor)

end Block

end ParameterDrift.Markup
