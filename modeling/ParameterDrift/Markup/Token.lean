import ParameterDrift.Markup.Block
import ParameterDrift.Markup.Plain
import ParameterDrift.Markup.Quote
import ParameterDrift.Markup.Tag
/-! # Tokens

A text is cut into tokens from left to right. Indentation opens and closes blocks, and brackets
stand for themselves. That a node is a key shows only at the colon behind it, so a node that may be
a key is remembered until the line ends; when the colon comes, the marks of a key and of a new
block go in front of the node.
-/

namespace ParameterDrift.Markup

/-- A part of a text. -/
inductive Token
  | directive (directive : Directive)
  | documentStart
  | documentEnd
  | textEnd
  | blockSequenceStart
  | blockMappingStart
  | blockEnd
  | flowSequenceStart
  | flowSequenceEnd
  | flowMappingStart
  | flowMappingEnd
  | blockEntry
  | flowEntry
  | key
  | value
  | alias (name : String)
  | anchor (name : String)
  | tag (tag : WrittenTag)
  /-- A text; `plain` when it stands without quotes and in no block. -/
  | scalar (text : String) (plain : Bool)
  /-- The place where the text stops being a document. -/
  | broken (fault : Fault)
  deriving DecidableEq, Repr

/-- A node that may turn out to be a key. -/
structure KeyCandidate where
  /-- The number of tokens before the node. -/
  tokens : Nat
  /-- Whether nothing else but a key may stand there. -/
  required : Bool
  index : Nat
  line : Nat
  column : Nat

/-- What is known about a text up to a place. -/
structure Lexer where
  cursor : Cursor
  /-- The tokens so far, latest first. -/
  tokens : List Token := []
  /-- The number of tokens so far. -/
  count : Nat := 0
  /-- The number of open brackets. -/
  depth : Nat := 0
  /-- The indentation of the innermost block. -/
  indent : Int := -1
  /-- The indentations of the blocks around it. -/
  indents : List Int := []
  /-- Whether a key may start here. -/
  keyAllowed : Bool := true
  /-- The nodes that may turn out to be keys, by the number of open brackets. -/
  candidates : List (Nat × KeyCandidate) := []
  /-- Whether the end of the text was reached. -/
  done : Bool := false

namespace Lexer

/-- The greatest distance between a key and its colon. -/
def maxKeyLength : Nat := 1024

/-- Whether the place is within brackets. -/
def inFlow (lexer : Lexer) : Bool :=
  lexer.depth != 0

/-- The state with one more token. -/
def push (token : Token) (lexer : Lexer) : Lexer :=
  { lexer with tokens := token :: lexer.tokens, count := lexer.count + 1 }

/-- The state with one more token, of some characters. -/
def pushOver (length : Nat) (token : Token) (lexer : Lexer) : Lexer :=
  { lexer.push token with cursor := lexer.cursor.advanceBy length }

/-- The state with a token put behind the first of its tokens. -/
def pushAt (place : Nat) (token : Token) (lexer : Lexer) : Lexer :=
  let later := lexer.count - place
  { lexer with
    tokens := lexer.tokens.take later ++ token :: lexer.tokens.drop later
    count := lexer.count + 1 }

/-- Whether the place is too far from a node for it to be a key. -/
def isStale (lexer : Lexer) (candidate : KeyCandidate) : Bool :=
  candidate.line != lexer.cursor.line || candidate.index + maxKeyLength < lexer.cursor.index

/-- Forget the nodes that are no keys any more. -/
def dropStale (lexer : Lexer) : Except Fault Lexer :=
  let stale := lexer.candidates.filter fun (_, candidate) => lexer.isStale candidate
  if stale.any fun (_, candidate) => candidate.required then .error (.form .keyWithoutColon)
  else
    .ok { lexer with
      candidates := lexer.candidates.filter fun (_, candidate) => !lexer.isStale candidate }

/-- The state in which no node may be a key at this depth. -/
def withoutCandidate (lexer : Lexer) : Lexer :=
  { lexer with candidates := lexer.candidates.filter fun (depth, _) => depth != lexer.depth }

/-- Forget the node that may be a key at this depth. -/
def dropCandidate (lexer : Lexer) : Except Fault Lexer :=
  match lexer.candidates.lookup lexer.depth with
  | none => .ok lexer
  | some candidate =>
    if candidate.required then .error (.form .keyWithoutColon) else .ok lexer.withoutCandidate

/-- Remember that the next node may be a key. -/
def saveCandidate (lexer : Lexer) : Except Fault Lexer :=
  if !lexer.keyAllowed then .ok lexer
  else do
    let required := !lexer.inFlow && lexer.indent == lexer.cursor.column
    let lexer ← lexer.dropCandidate
    let candidate : KeyCandidate :=
      ⟨lexer.count, required, lexer.cursor.index, lexer.cursor.line, lexer.cursor.column⟩
    .ok { lexer with candidates := (lexer.depth, candidate) :: lexer.candidates }

/-- Close the blocks that are indented deeper than a column. -/
def closeBlocks (column : Int) (lexer : Lexer) : Lexer :=
  if lexer.inFlow then lexer
  else
    let deeper := (lexer.indent :: lexer.indents).takeWhile fun indent => column < indent
    match (lexer.indent :: lexer.indents).drop deeper.length with
    | indent :: indents =>
      { lexer with
        tokens := deeper.map (fun _ => Token.blockEnd) ++ lexer.tokens
        count := lexer.count + deeper.length
        indent := indent
        indents := indents }
    | [] => lexer

/-- Open a block at a column, if it is deeper than the innermost. -/
def openBlock (column : Nat) (place : Nat) (start : Token) (lexer : Lexer) : Lexer :=
  if lexer.indent < column then
    { lexer.pushAt place start with
      indent := column
      indents := lexer.indent :: lexer.indents }
  else lexer

/-- The end of the text. -/
def atEnd (lexer : Lexer) : Except Fault Lexer := do
  let lexer ← (lexer.closeBlocks (-1)).dropCandidate
  .ok { lexer.push .textEnd with keyAllowed := false, candidates := [], done := true }

/-- A directive. -/
def directive (lexer : Lexer) : Except Fault Lexer := do
  let lexer ← (lexer.closeBlocks (-1)).dropCandidate
  let (directive, after) ← lexer.cursor.directive
  .ok { lexer.push (.directive directive) with cursor := after, keyAllowed := false }

/-- A mark between documents. -/
def separator (token : Token) (lexer : Lexer) : Except Fault Lexer := do
  let lexer ← (lexer.closeBlocks (-1)).dropCandidate
  .ok { lexer.pushOver 3 token with keyAllowed := false }

/-- An opening bracket. -/
def flowStart (token : Token) (lexer : Lexer) : Except Fault Lexer := do
  let lexer ← lexer.saveCandidate
  .ok { lexer.pushOver 1 token with depth := lexer.depth + 1, keyAllowed := true }

/-- A closing bracket. -/
def flowEnd (token : Token) (lexer : Lexer) : Except Fault Lexer := do
  let lexer ← lexer.dropCandidate
  .ok { lexer.pushOver 1 token with depth := lexer.depth - 1, keyAllowed := false }

/-- A comma within brackets. -/
def flowEntry (lexer : Lexer) : Except Fault Lexer := do
  let lexer ← lexer.dropCandidate
  .ok { lexer.pushOver 1 .flowEntry with keyAllowed := true }

/-- The mark of an entry or of a key in a block. -/
def blockMark (start mark : Token) (keyAllowed : Bool) (lexer : Lexer) : Except Fault Lexer := do
  if !lexer.inFlow && !lexer.keyAllowed then .error (.form .misplaced)
  else
    let lexer := if lexer.inFlow then lexer
      else lexer.openBlock lexer.cursor.column lexer.count start
    let lexer ← lexer.dropCandidate
    .ok { lexer.pushOver 1 mark with keyAllowed := keyAllowed }

/-- The colon before a value. -/
def value (lexer : Lexer) : Except Fault Lexer :=
  match lexer.candidates.lookup lexer.depth with
  | some candidate =>
    let lexer := lexer.pushAt candidate.tokens .key
    let lexer := if lexer.inFlow then lexer
      else lexer.openBlock candidate.column candidate.tokens .blockMappingStart
    .ok { lexer.withoutCandidate.pushOver 1 .value with keyAllowed := false }
  | none => lexer.blockMark .blockMappingStart .value (!lexer.inFlow)

/-- An anchor or an alias. -/
def named (make : String → Token) (lexer : Lexer) : Except Fault Lexer := do
  let lexer ← lexer.saveCandidate
  let (name, after) ← lexer.cursor.anchorName
  .ok { lexer.push (make name) with cursor := after, keyAllowed := false }

/-- A tag. -/
def tag (lexer : Lexer) : Except Fault Lexer := do
  let lexer ← lexer.saveCandidate
  let (tag, after) ← lexer.cursor.tag
  .ok { lexer.push (.tag tag) with cursor := after, keyAllowed := false }

/-- A block of text. -/
def block (lexer : Lexer) : Except Fault Lexer := do
  let lexer ← lexer.dropCandidate
  let (text, after) ← Block.scan lexer.indent lexer.cursor
  .ok { lexer.push (.scalar (String.ofList text) false) with cursor := after, keyAllowed := true }

/-- Text in quotes. -/
def quoted (double : Bool) (lexer : Lexer) : Except Fault Lexer := do
  let lexer ← lexer.saveCandidate
  let (text, after) ← Quote.scan double lexer.cursor
  .ok { lexer.push (.scalar (String.ofList text) false) with cursor := after, keyAllowed := false }

/-- Plain text. -/
def plain (lexer : Lexer) : Except Fault Lexer := do
  let lexer ← lexer.saveCandidate
  let plain := Plain.scan lexer.inFlow (lexer.indent + 1) lexer.cursor
  .ok { lexer.push (.scalar (String.ofList plain.text) true) with
    cursor := plain.after
    keyAllowed := plain.crossedLine }

/-- The characters that start no plain text. -/
def indicators : List Char :=
  "-?:,[]\x7b\x7d#&*!|>'\"%@".toList ++ ['\x60']

/-- Whether plain text starts at a place with this character. -/
def startsPlain (lexer : Lexer) (c : Char) : Bool :=
  (!isGap c && !indicators.contains c) ||
    (!lexer.cursor.gapAfter 1 && (c == '-' || (!lexer.inFlow && (c == '?' || c == ':'))))

/-- Whether a mark counts as one: within brackets always, else before a gap. -/
def isMark (lexer : Lexer) : Bool :=
  lexer.inFlow || lexer.cursor.gapAfter 1

/-- The token that starts with a character. -/
def tokenAt (lexer : Lexer) (c : Char) : Except Fault Lexer :=
  let lineStart := lexer.cursor.column == 0
  if c = '%' && lineStart then lexer.directive
  else if c = '-' && lineStart && lexer.cursor.atMark '-' then lexer.separator .documentStart
  else if c = '.' && lineStart && lexer.cursor.atMark '.' then lexer.separator .documentEnd
  else if c = '[' then lexer.flowStart .flowSequenceStart
  else if c = '\x7b' then lexer.flowStart .flowMappingStart
  else if c = ']' then lexer.flowEnd .flowSequenceEnd
  else if c = '\x7d' then lexer.flowEnd .flowMappingEnd
  else if c = ',' then lexer.flowEntry
  else if c = '-' && lexer.cursor.gapAfter 1 then
    lexer.blockMark .blockSequenceStart .blockEntry true
  else if c = '?' && lexer.isMark then lexer.blockMark .blockMappingStart .key (!lexer.inFlow)
  else if c = ':' && lexer.isMark then lexer.value
  else if c = '*' then lexer.named .alias
  else if c = '&' then lexer.named .anchor
  else if c = '!' then lexer.tag
  else if (c = '|' || c = '>') && !lexer.inFlow then lexer.block
  else if c = '\'' then lexer.quoted false
  else if c = '"' then lexer.quoted true
  else if lexer.startsPlain c then lexer.plain
  else .error (.form .noToken)

/-- The next token, with the ends of blocks before it. -/
def next (lexer : Lexer) : Except Fault Lexer := do
  let (crossedLine, cursor) := lexer.cursor.skipBlank
  let lexer ← dropStale
    { lexer with
      cursor := cursor
      keyAllowed := lexer.keyAllowed || (crossedLine && !lexer.inFlow) }
  let lexer := lexer.closeBlocks lexer.cursor.column
  match lexer.cursor.head? with
  | none => lexer.atEnd
  | some c => lexer.tokenAt c

/-- All tokens from a place on. -/
def run : Nat → Lexer → List Token
  | 0, lexer => lexer.tokens.reverse
  | fuel + 1, lexer =>
    match lexer.next with
    | .error fault => (Token.broken fault :: lexer.tokens).reverse
    | .ok lexer => if lexer.done then lexer.tokens.reverse else run fuel lexer

end Lexer

/-- The tokens of a text. A mark of byte order at its start does not count. -/
def Token.ofText (text : List Char) : List Token :=
  let start := Cursor.ofText text
  let start := if start.startsWith byteOrderMark then start.advance else start
  Lexer.run (text.length + 2) { cursor := start }

end ParameterDrift.Markup
