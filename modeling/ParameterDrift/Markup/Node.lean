import ParameterDrift.Markup.Token
/-! # Nodes

The tokens of a text make a tree of nodes: texts, sequences and mappings, each of a kind that its
tag names or that is still to be found from its text. An alias stands for the node with its anchor,
which must be complete by then. A text holds one document at most.
-/

namespace ParameterDrift.Markup

/-- What is known about the kind of a node. -/
inductive Kind
  /-- A tag names the kind. -/
  | named (name : String)
  /-- The kind follows from the node itself. -/
  | natural
  deriving DecidableEq, Repr

/-- A part of a document. -/
inductive Node
  /-- A text; `plain` when its kind, unless a tag names it, follows from the text. -/
  | scalar (kind : Kind) (plain : Bool) (text : String)
  | sequence (kind : Kind) (items : List Node)
  | mapping (kind : Kind) (entries : List (Node × Node))

/-- What is left of the tokens, and the declarations that are in force. -/
structure Parser where
  tokens : List Token
  /-- The first parts of kinds by handle. -/
  handles : List (String × String)
  /-- The nodes by anchor; none while a node is not complete. -/
  anchors : List (String × Option Node) := []

/-- A step over tokens, which may fail. -/
abbrev Parse := StateT Parser (Except Fault)

namespace Parse

/-- A token where the grammar has another. -/
def unexpected {α : Type} : Parse α :=
  throw (.form .unexpectedToken)

/-- The next token. -/
def peek : Parse Token := do
  match (← get).tokens with
  | .broken fault :: _ => throw fault
  | token :: _ => pure token
  | [] => pure .textEnd

/-- Leave the next token behind. -/
def drop : Parse Unit :=
  modify fun parser => { parser with tokens := parser.tokens.drop 1 }

/-- The next token must be this one, and is left behind. -/
def expect (token : Token) : Parse Unit := do
  if (← peek) = token then drop else unexpected

/-- The node of an empty text. -/
def empty : Node :=
  .scalar .natural true ""

/-- The kind that a tag names. -/
def kind (tag : WrittenTag) : Parse String := do
  match tag.handle with
  | none => pure tag.rest
  | some handle =>
    match (← get).handles.lookup handle with
    | some start => pure (start ++ tag.rest)
    | none => throw (.form .undeclaredHandle)

/-- The anchor that comes next, if one does. -/
def anchor? : Parse (Option String) := do
  match ← peek with
  | .anchor name => do
    drop
    pure (some name)
  | _ => pure none

/-- The tag that comes next, if one does. -/
def tag? : Parse (Option WrittenTag) := do
  match ← peek with
  | .tag tag => do
    drop
    pure (some tag)
  | _ => pure none

/-- An anchor and a tag in either order. -/
def properties : Parse (Option String × Option String) := do
  let first ← anchor?
  let tag ← tag?
  let anchor ← match first, tag with
    | none, some _ => anchor?
    | _, _ => pure first
  let kind ← match tag with
    | some tag => some <$> kind tag
    | none => pure none
  pure (anchor, kind)

/-- The kind of a text or a collection: a lone mark as a tag leaves it to the node. -/
def kindOf (name : Option String) : Kind :=
  match name with
  | none => .natural
  | some name => if name = "!" then .natural else .named name

/-- Take note that a node with an anchor begins. -/
def beginAnchor (anchor : Option String) : Parse Unit := do
  match anchor with
  | none => pure ()
  | some name =>
    if ((← get).anchors.lookup name).isSome then throw (.form .repeatedAnchor)
    else modify fun parser => { parser with anchors := (name, none) :: parser.anchors }

/-- Take note that a node with an anchor is complete. -/
def endAnchor (anchor : Option String) (node : Node) : Parse Node := do
  match anchor with
  | none => pure node
  | some name => do
    modify fun parser => { parser with anchors := (name, some node) :: parser.anchors }
    pure node

/-- The node that an alias stands for. -/
def aliased (name : String) : Parse Node := do
  match (← get).anchors.lookup name with
  | some (some node) => pure node
  | _ => throw (.form .undefinedAlias)

mutual

/-- A node. `block` admits of blocks, `indentless` of a sequence whose entries are not indented. -/
def node (block indentless : Bool) : Nat → Parse Node
  | 0 => unexpected
  | fuel + 1 => do
    match ← peek with
    | .alias name => do
      drop
      aliased name
    | _ =>
      let (anchor, tag) ← properties
      let kind := kindOf tag
      beginAnchor anchor
      match ← peek with
      | .blockEntry =>
        if indentless then
          endAnchor anchor (.sequence kind (← entries true fuel))
        else if anchor.isSome || tag.isSome then endAnchor anchor (.scalar kind true "")
        else unexpected
      | .scalar text plain => do
        drop
        let natural := (plain && tag.isNone) || tag == some "!"
        endAnchor anchor (.scalar kind natural text)
      | .flowSequenceStart => do
        drop
        endAnchor anchor (.sequence kind (← flowItems true fuel))
      | .flowMappingStart => do
        drop
        endAnchor anchor (.mapping kind (← flowPairs true fuel))
      | .blockSequenceStart =>
        if block then do
          drop
          let items ← entries false fuel
          expect .blockEnd
          endAnchor anchor (.sequence kind items)
        else if anchor.isSome || tag.isSome then endAnchor anchor (.scalar kind true "")
        else unexpected
      | .blockMappingStart =>
        if block then do
          drop
          let pairs ← pairs fuel
          expect .blockEnd
          endAnchor anchor (.mapping kind pairs)
        else if anchor.isSome || tag.isSome then endAnchor anchor (.scalar kind true "")
        else unexpected
      | _ =>
        if anchor.isSome || tag.isSome then endAnchor anchor (.scalar kind true "")
        else unexpected

/-- The entries of a block sequence. -/
def entries (indentless : Bool) : Nat → Parse (List Node)
  | 0 => unexpected
  | fuel + 1 => do
    match ← peek with
    | .blockEntry => do
      drop
      let item ← match ← peek with
        | .blockEntry => pure empty
        | .blockEnd => pure empty
        | .key => if indentless then pure empty else node true false fuel
        | .value => if indentless then pure empty else node true false fuel
        | _ => node true false fuel
      pure (item :: (← entries indentless fuel))
    | _ => pure []

/-- The pairs of a block mapping. -/
def pairs : Nat → Parse (List (Node × Node))
  | 0 => unexpected
  | fuel + 1 => do
    match ← peek with
    | .key => do
      drop
      let key ← part fuel
      let value ← valueOf fuel
      pure ((key, value) :: (← pairs fuel))
    | _ => pure []

/-- The key or the value of a pair, which may be empty. -/
def part : Nat → Parse Node
  | 0 => unexpected
  | fuel + 1 => do
    match ← peek with
    | .key => pure empty
    | .value => pure empty
    | .blockEnd => pure empty
    | _ => node true true fuel

/-- The value of a pair, if it has one. -/
def valueOf : Nat → Parse Node
  | 0 => unexpected
  | fuel + 1 => do
    match ← peek with
    | .value => do
      drop
      part fuel
    | _ => pure empty

/-- The items of a sequence in brackets, and the closing bracket. A pair stands for a mapping of
one entry. -/
def flowItems (first : Bool) : Nat → Parse (List Node)
  | 0 => unexpected
  | fuel + 1 => do
    match ← peek with
    | .flowSequenceEnd => do
      drop
      pure []
    | _ =>
      if !first then expect .flowEntry
      match ← peek with
      | .flowSequenceEnd => do
        drop
        pure []
      | .key => do
        drop
        let key ← flowPart .flowSequenceEnd true fuel
        let value ← flowValue .flowSequenceEnd fuel
        pure (.mapping .natural [(key, value)] :: (← flowItems false fuel))
      | _ => do
        let item ← node false false fuel
        pure (item :: (← flowItems false fuel))

/-- The pairs of a mapping in brackets, and the closing bracket. -/
def flowPairs (first : Bool) : Nat → Parse (List (Node × Node))
  | 0 => unexpected
  | fuel + 1 => do
    match ← peek with
    | .flowMappingEnd => do
      drop
      pure []
    | _ =>
      if !first then expect .flowEntry
      match ← peek with
      | .flowMappingEnd => do
        drop
        pure []
      | .key => do
        drop
        let key ← flowPart .flowMappingEnd true fuel
        let value ← flowValue .flowMappingEnd fuel
        pure ((key, value) :: (← flowPairs false fuel))
      | _ => do
        let key ← node false false fuel
        pure ((key, empty) :: (← flowPairs false fuel))

/-- The key or the value of a pair within brackets, which may be empty. -/
def flowPart (close : Token) (isKey : Bool) : Nat → Parse Node
  | 0 => unexpected
  | fuel + 1 => do
    let token ← peek
    if token = .flowEntry || token = close || (isKey && token = .value) then pure empty
    else node false false fuel

/-- The value of a pair within brackets, if it has one. -/
def flowValue (close : Token) : Nat → Parse Node
  | 0 => unexpected
  | fuel + 1 => do
    match ← peek with
    | .value => do
      drop
      flowPart close false fuel
    | _ => pure empty

end

/-- The handles that are declared in every document. -/
def defaultHandles : List (String × String) :=
  [("!", "!"), ("!!", "tag:yaml.org,2002:")]

/-- The version of the markup language that documents may declare. -/
def supportedVersion : Nat := 1

/-- The directives before a document: whether its version is declared, and its handles. -/
def directives : Nat → Bool → List (String × String) → Parse (List (String × String))
  | 0, _, handles => pure handles
  | fuel + 1, versioned, handles => do
    match ← peek with
    | .directive directive => do
      drop
      match directive with
      | .version major _ =>
        if versioned || major != supportedVersion then throw (.form .version)
        else directives fuel true handles
      | .handle handle start =>
        if (handles.lookup handle).isSome then throw (.form .directive)
        else directives fuel versioned ((handle, start) :: handles)
      | .other => directives fuel versioned handles
    | _ => pure handles

/-- Leave marks of the end of a document behind. -/
def dropEnds : Nat → Parse Unit
  | 0 => pure ()
  | fuel + 1 => do
    match ← peek with
    | .documentEnd => do
      drop
      dropEnds fuel
    | _ => pure ()

/-- The content of a document that was begun by a mark. -/
def content (fuel : Nat) : Parse Node := do
  match ← peek with
  | .directive _ => pure empty
  | .documentStart => pure empty
  | .documentEnd => pure empty
  | .textEnd => pure empty
  | _ => node true false fuel

/-- The document, if there is one. -/
def document (fuel : Nat) : Parse (Option Node) := do
  match ← peek with
  | .textEnd => pure none
  | .directive _ => explicit
  | .documentStart => explicit
  | _ => some <$> node true false fuel
where
  explicit : Parse (Option Node) := do
    let handles ← directives fuel false []
    modify fun parser => { parser with handles := handles ++ defaultHandles }
    expect .documentStart
    some <$> content fuel

/-- The only document of a text, if there is one. -/
def only (fuel : Nat) : Parse (Option Node) := do
  let found ← document fuel
  dropEnds fuel
  match ← peek with
  | .textEnd => pure found
  | _ => throw (.form .secondDocument)

end Parse

/-- The document of a text, if it holds one. -/
def Node.ofText? (text : List Char) : Except Fault (Option Node) :=
  let tokens := Token.ofText text
  (Parse.only (4 * tokens.length + 8)).run' { tokens := tokens, handles := Parse.defaultHandles }

end ParameterDrift.Markup
