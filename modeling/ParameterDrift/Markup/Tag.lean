import ParameterDrift.Markup.Cursor
/-! # Names, tags and directives

Anchors and aliases have a name. A tag tells the kind of a node: a handle, which stands for the
first part of the kind, and the rest. Directives before a document declare its version and the
handles of its tags.
-/

namespace ParameterDrift.Markup

/-- A tag as it is written. Without a handle the rest is the whole kind. -/
structure WrittenTag where
  handle : Option String
  rest : String
  deriving DecidableEq, Repr

/-- A directive. -/
inductive Directive
  | version (major minor : Nat)
  | handle (handle start : String)
  | other
  deriving DecidableEq, Repr

/-- Whether a character may stand in a name. -/
def isNameChar (c : Char) : Bool :=
  Numeral.isDigit c || ('a' ≤ c && c ≤ 'z') || ('A' ≤ c && c ≤ 'Z') || c == '-' || c == '_'

/-- Whether a character may stand in a tag. -/
def isTagChar (c : Char) : Bool :=
  isNameChar c || "-;/?:@&=+$,_.!~*'()[]".toList.contains c

namespace Cursor

/-- The name of an anchor or alias after its mark, and the place after it. -/
def anchorName (cursor : Cursor) : Except Fault (String × Cursor) :=
  let (name, after) := cursor.advance.span isNameChar
  let ends := match after.head? with
    | none => true
    | some c => isGap c || "?:,]\x7d%@".toList.contains c || c == '\x60'
  if name.isEmpty || !ends then .error (.form .anchorName) else .ok (String.ofList name, after)

/-- The bytes of the percent escapes that come next, and the place after them. -/
def escapedBytes : Nat → Cursor → Except Fault (List UInt8 × Cursor)
  | 0, cursor => .ok ([], cursor)
  | fuel + 1, cursor =>
    match cursor.rest with
    | '%' :: high :: low :: _ =>
      if Numeral.isHexDigit high && Numeral.isHexDigit low then do
        let byte := (Numeral.natural? 16 [high, low]).getD 0
        let (later, after) ← escapedBytes fuel (cursor.advanceBy 3)
        .ok (byte.toUInt8 :: later, after)
      else .error (.form .tag)
    | '%' :: _ => .error (.form .tag)
    | _ => .ok ([], cursor)

/-- The text of a tag up to a character that cannot stand in one, and the place after it. -/
def tagTextFrom : Nat → List Char → Cursor → Except Fault (List Char × Cursor)
  | 0, text, cursor => .ok (text, cursor)
  | fuel + 1, text, cursor => do
    let (plain, cursor) := cursor.span isTagChar
    let text := text ++ plain
    if cursor.startsWith '%' then
      let (bytes, after) ← escapedBytes cursor.reach cursor
      match String.fromUTF8? ⟨bytes.toArray⟩ with
      | some escaped => tagTextFrom fuel (text ++ escaped.toList) after
      | none => .error (.form .tag)
    else .ok (text, cursor)

/-- The text of a tag, of at least one character, and the place after it. -/
def tagText (cursor : Cursor) : Except Fault (String × Cursor) := do
  let (text, after) ← tagTextFrom cursor.reach [] cursor
  if after.index = cursor.index then .error (.form .tag) else .ok (String.ofList text, after)

/-- The handle of a tag, and the place after it: a mark alone, or a name between two. -/
def tagHandle (cursor : Cursor) : Except Fault (String × Cursor) :=
  if !cursor.startsWith '!' then .error (.form .tag)
  else
    let first := cursor.advance
    if first.startsWith ' ' then .ok ("!", first)
    else
      let (name, after) := first.span isNameChar
      if after.startsWith '!' then .ok (String.ofList ('!' :: name ++ ['!']), after.advance)
      else .error (.form .tag)

/-- Whether a mark of a handle comes before the next gap. -/
def hasSecondMark (cursor : Cursor) : Bool :=
  (cursor.rest.takeWhile fun c => c != ' ' && !isBreak c).contains '!'

/-- The tag at a place, and the place after it. -/
def tag (cursor : Cursor) : Except Fault (WrittenTag × Cursor) := do
  let (tag, after) ←
    if cursor.advance.startsWith '<' then do
      let (text, after) ← tagText (cursor.advanceBy 2)
      if after.startsWith '>' then .ok ((⟨none, text⟩ : WrittenTag), after.advance)
      else .error (.form .tag)
    else if cursor.gapAfter 1 then .ok (⟨none, "!"⟩, cursor.advance)
    else do
      let (handle, after) ←
        if cursor.advance.hasSecondMark then tagHandle cursor else .ok ("!", cursor.advance)
      let (text, after) ← tagText after
      .ok (⟨some handle, text⟩, after)
  if after.atSpaceOrEnd then .ok (tag, after) else .error (.form .tag)

/-- A number of the version, and the place after it. -/
def versionNumber (cursor : Cursor) : Except Fault (Nat × Cursor) :=
  let (digits, after) := cursor.span Numeral.isDigit
  match Numeral.natural? 10 digits with
  | some n => .ok (n, after)
  | none => .error (.form .directive)

/-- The directive at a place, and the place on the line after it. -/
def directive (cursor : Cursor) : Except Fault (Directive × Cursor) := do
  let (name, after) := cursor.advance.span isNameChar
  if name.isEmpty || !after.atSpaceOrEnd then .error (.form .directive)
  else
    let start := after.skip (· == ' ')
    let (directive, after) ←
      if name = "YAML".toList then do
        let (major, after) ← versionNumber start
        if !after.startsWith '.' then .error (.form .directive)
        else
          let (minor, after) ← versionNumber after.advance
          if after.atSpaceOrEnd then .ok (Directive.version major minor, after)
          else .error (.form .directive)
      else if name = "TAG".toList then do
        let (handle, after) ← tagHandle start
        if !after.startsWith ' ' then .error (.form .directive)
        else
          let (text, after) ← tagText (after.skip (· == ' '))
          if after.atSpaceOrEnd then .ok (Directive.handle handle text, after)
          else .error (.form .directive)
      else .ok (Directive.other, after.skip fun c => !isBreak c)
    let after := after.skipComment
    match after.head?, after.lineEnd? with
    | none, _ => .ok (directive, after)
    | _, some (_, next) => .ok (directive, next)
    | _, none => .error (.form .directive)

end Cursor

end ParameterDrift.Markup
