import ParameterDrift.Markup.Fault
/-! # A place in a text

Markup is read from left to right, and indentation gives it structure. A cursor is a place in a
text: what follows it, its index, line and column, and how far it is at most to the end. Moving on
never makes what follows longer, so scans that move on come to an end.
-/

namespace ParameterDrift.Markup

/-- Whether a character ends a line. -/
def isBreak (c : Char) : Bool :=
  c == '\n' || c == '\x85' || c == '\u2028' || c == '\u2029'

/-- Whether a character is a space, a tab or ends a line. -/
def isGap (c : Char) : Bool :=
  c == ' ' || c == '\t' || isBreak c

/-- The mark of byte order, which takes no column. -/
def byteOrderMark : Char := '\uFEFF'

/-- A place in a text. -/
structure Cursor where
  rest : List Char
  /-- The length of the whole text. -/
  size : Nat
  index : Nat := 0
  line : Nat := 0
  column : Nat := 0

namespace Cursor

/-- The start of a text. -/
def ofText (text : List Char) : Cursor where
  rest := text
  size := text.length

/-- The number of steps that certainly lead to the end of the text. -/
def reach (cursor : Cursor) : Nat :=
  cursor.size - cursor.index + 1

/-- The place after the next character. -/
def advance (cursor : Cursor) : Cursor :=
  match cursor.rest with
  | [] => cursor
  | c :: rest =>
    if isBreak c then ⟨rest, cursor.size, cursor.index + 1, cursor.line + 1, 0⟩
    else if c = byteOrderMark then ⟨rest, cursor.size, cursor.index + 1, cursor.line, cursor.column⟩
    else ⟨rest, cursor.size, cursor.index + 1, cursor.line, cursor.column + 1⟩

/-- At a character a step leaves less of the text. -/
theorem length_advance_lt {cursor : Cursor} {c : Char} {rest : List Char}
    (here : cursor.rest = c :: rest) : cursor.advance.rest.length < cursor.rest.length := by
  unfold advance
  rw [here]
  simp only
  split
  · simp
  · split <;> simp

theorem length_advance_le (cursor : Cursor) :
    cursor.advance.rest.length ≤ cursor.rest.length := by
  cases here : cursor.rest with
  | nil =>
    unfold advance
    simp [here]
  | cons c rest =>
    have shorter := length_advance_lt here
    rw [here] at shorter
    exact Nat.le_of_lt shorter

/-- The place after some characters. -/
def advanceBy : Nat → Cursor → Cursor
  | 0, cursor => cursor
  | n + 1, cursor => advanceBy n cursor.advance

theorem length_advanceBy_le (n : Nat) (cursor : Cursor) :
    (cursor.advanceBy n).rest.length ≤ cursor.rest.length := by
  induction n generalizing cursor with
  | zero => exact Nat.le_refl _
  | succ n ih => exact Nat.le_trans (ih cursor.advance) cursor.length_advance_le

/-- The characters of a class that come next, and the place after them. -/
def span (class? : Char → Bool) (cursor : Cursor) : List Char × Cursor :=
  let taken := cursor.rest.takeWhile class?
  (taken, cursor.advanceBy taken.length)

/-- The place after the characters of a class that come next. -/
def skip (class? : Char → Bool) (cursor : Cursor) : Cursor :=
  (cursor.span class?).2

theorem length_skip_le (class? : Char → Bool) (cursor : Cursor) :
    (cursor.skip class?).rest.length ≤ cursor.rest.length :=
  length_advanceBy_le _ _

/-- The next character. -/
def head? (cursor : Cursor) : Option Char :=
  cursor.rest.head?

/-- Whether a character comes next. -/
def startsWith (c : Char) (cursor : Cursor) : Bool :=
  cursor.head? == some c

/-- Whether some characters on, a gap or the end of the text comes. -/
def gapAfter (count : Nat) (cursor : Cursor) : Bool :=
  match cursor.rest[count]? with
  | none => true
  | some c => isGap c

/-- Whether a space, the end of a line or the end of the text comes next. -/
def atSpaceOrEnd (cursor : Cursor) : Bool :=
  match cursor.head? with
  | none => true
  | some c => c == ' ' || isBreak c

/-- The end of a line that comes next, as it counts in a text, and the place after it. -/
def lineEnd? (cursor : Cursor) : Option (Char × Cursor) :=
  match cursor.head? with
  | some c =>
    if c = '\n' || c = '\x85' then some ('\n', cursor.advance)
    else if isBreak c then some (c, cursor.advance)
    else none
  | none => none

/-- The end of a line is at least one character. -/
theorem length_lineEnd_lt {cursor after : Cursor} {c : Char}
    (found : cursor.lineEnd? = some (c, after)) : after.rest.length < cursor.rest.length := by
  unfold lineEnd? head? at found
  cases here : cursor.rest with
  | nil => simp [here] at found
  | cons first rest =>
    have shorter := length_advance_lt here
    rw [here] at shorter
    simp only [here, List.head?_cons] at found
    split at found
    · simp only [Option.some.injEq, Prod.mk.injEq] at found
      rwa [← found.2]
    · split at found
      · simp only [Option.some.injEq, Prod.mk.injEq] at found
        rwa [← found.2]
      · cases found

/-- Whether three characters and a gap come next. -/
def atMark (mark : Char) (cursor : Cursor) : Bool :=
  cursor.rest.take 3 == [mark, mark, mark] && cursor.gapAfter 3

/-- Whether a mark between documents comes next. -/
def atSeparator (cursor : Cursor) : Bool :=
  cursor.atMark '-' || cursor.atMark '.'

/-- The place after spaces and a comment. -/
def skipComment (cursor : Cursor) : Cursor :=
  let cursor := cursor.skip (· == ' ')
  if cursor.startsWith '#' then cursor.skip fun c => !isBreak c else cursor

theorem length_skipComment_le (cursor : Cursor) :
    cursor.skipComment.rest.length ≤ cursor.rest.length := by
  unfold skipComment
  dsimp only
  split
  · exact Nat.le_trans (length_skip_le _ _) (length_skip_le _ _)
  · exact length_skip_le _ _

/-- The place after spaces, comments and ends of lines, and whether there was such an end. -/
def skipBlank (cursor : Cursor) : Bool × Cursor :=
  match _found : cursor.skipComment.lineEnd? with
  | none => (false, cursor.skipComment)
  | some (_, after) => (true, (skipBlank after).2)
termination_by cursor.rest.length
decreasing_by exact Nat.lt_of_lt_of_le (length_lineEnd_lt _found) cursor.length_skipComment_le

/-- How the end of a line and the empty lines after it stand in a text that is folded. -/
def fold (lineEnd : Char) (emptyLines : List Char) : List Char :=
  if lineEnd ≠ '\n' then lineEnd :: emptyLines
  else if emptyLines.isEmpty then [' '] else emptyLines

end Cursor

end ParameterDrift.Markup
