import ParameterDrift.Markup.Cursor
/-! # Plain text

Text without quotes ends before a comment, before a colon that separates a key from its value, and
within brackets before their punctuation. It may go on over several lines that are indented deeply
enough; the end of a line counts as a space, and empty lines as ends of lines.
-/

namespace ParameterDrift.Markup

/-- A piece of plain text and the place after it. -/
structure Plain where
  text : List Char
  after : Cursor
  /-- Whether the place after the text is on a later line. -/
  crossedLine : Bool

namespace Plain

/-- The characters that end plain text within brackets. -/
def flowMarks : List Char := [',', '?', '[', ']', '\x7b', '\x7d']

/-- The characters before which a colon ends plain text within brackets. -/
def flowMarksAfterColon : List Char := [',', '[', ']', '\x7b', '\x7d']

/-- The characters of plain text up to a gap or to the end of the text. -/
def word (inFlow : Bool) : List Char → List Char
  | [] => []
  | c :: rest =>
    let separates := c == ':' && (match rest.head? with
      | none => true
      | some next => isGap next || (inFlow && flowMarksAfterColon.contains next))
    if isGap c || separates || (inFlow && flowMarks.contains c) then [] else c :: word inFlow rest

/-- The ends of lines among spaces and ends of lines, and the place after them. There are none when
a mark between documents follows one. -/
def emptyLines (cursor : Cursor) : Option (List Char) × Cursor :=
  match _here : cursor.rest with
  | [] => (some [], cursor)
  | c :: _ =>
    if c = ' ' then emptyLines cursor.advance
    else match _found : cursor.lineEnd? with
      | none => (some [], cursor)
      | some (lineEnd, after) =>
        if after.atSeparator then (none, after)
        else
          let (later, last) := emptyLines after
          (later.map (lineEnd :: ·), last)
termination_by cursor.rest.length
decreasing_by
  · exact Cursor.length_advance_lt _here
  · exact Cursor.length_lineEnd_lt _found

/-- What stands between two words of plain text; nothing, when the text ends here. -/
def gap (cursor : Cursor) : Plain :=
  let (spaces, cursor) := cursor.span (· == ' ')
  match cursor.lineEnd? with
  | none => ⟨spaces, cursor, false⟩
  | some (lineEnd, after) =>
    if after.atSeparator then ⟨[], after, true⟩
    else match emptyLines after with
      | (some lines, after) => ⟨Cursor.fold lineEnd lines, after, true⟩
      | (none, after) => ⟨[], after, true⟩

/-- Plain text from a place on, after the words that were read and the gap behind them. -/
def scanFrom (inFlow : Bool) (indent : Int) : Nat → List Char → Plain → Plain
  | 0, text, gap => { gap with text := text }
  | fuel + 1, text, before =>
    let word := word inFlow before.after.rest
    if before.after.startsWith '#' || word.isEmpty then { before with text := text }
    else
      let text := text ++ before.text ++ word
      let next := gap (before.after.advanceBy word.length)
      if next.text.isEmpty || next.after.startsWith '#'
          || (!inFlow && (next.after.column : Int) < indent) then
        { next with text := text }
      else scanFrom inFlow indent fuel text next

/-- The plain text at a place. Lines after the first must reach the indentation, except within
brackets. -/
def scan (inFlow : Bool) (indent : Int) (cursor : Cursor) : Plain :=
  scanFrom inFlow indent cursor.reach [] ⟨[], cursor, false⟩

end Plain

end ParameterDrift.Markup
