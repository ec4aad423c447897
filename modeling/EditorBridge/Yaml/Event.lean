import EditorBridge.Yaml.Token

/-!
# Events

The documents of a YAML text as a flat sequence: where a list or table begins and ends, and the
scalars between. The grammar is a machine with one state for every place between tokens; what is
left of it is a stack of states to come back to. Where a value is missing it gives an empty scalar.
-/

namespace EditorBridge.Yaml

open Text (Bytes)

/-- A scalar as a value. -/
structure Scalar where
  /-- Its text. -/
  text : String
  /-- How it was written. -/
  style : Style
  /-- The kind it was given by a tag. -/
  tag : Option Bytes
deriving DecidableEq, Repr

/-- What a text consists of. Nodes have the names they were given. -/
inductive Event where
  /-- The beginning of a document. -/
  | documentStart
  /-- The end of a document. -/
  | documentEnd
  /-- The end of the text. -/
  | streamEnd
  /-- Another mention of a named node. -/
  | alias (name : String)
  /-- A scalar. -/
  | scalar (anchor : Option String) (value : Scalar)
  /-- The beginning of a list. -/
  | sequenceStart (anchor : Option String)
  /-- The end of a list. -/
  | sequenceEnd
  /-- The beginning of a table. -/
  | mappingStart (anchor : Option String)
  /-- The end of a table. -/
  | mappingEnd
deriving DecidableEq, Repr

/-- The places of the grammar. -/
inductive Place where
  /-- At the first document, or behind its directives. -/
  | firstDocument
  /-- At a further document. -/
  | nextDocument
  /-- Behind the mark of a document's start. -/
  | documentContent
  /-- At the only node of a document. -/
  | documentNode
  /-- Behind the only node of a document. -/
  | documentEnd
  /-- At the beginning of an indented list. -/
  | blockSequenceFirst
  /-- At an item of an indented list. -/
  | blockSequenceItem
  /-- At an item of a list that stands in a table without indentation. -/
  | indentlessItem
  /-- At the beginning of an indented table. -/
  | blockMappingFirst
  /-- At a key of an indented table. -/
  | blockMappingKey
  /-- Behind a key of an indented table. -/
  | blockMappingValue
  /-- At the beginning of a list in brackets. -/
  | flowSequenceFirst
  /-- Behind an item of a list in brackets. -/
  | flowSequenceItem
  /-- At the key of a single pair in brackets. -/
  | pairKey
  /-- Behind the key of a single pair in brackets. -/
  | pairValue
  /-- Behind a single pair in brackets. -/
  | pairEnd
  /-- At the beginning of a table in braces. -/
  | flowMappingFirst
  /-- Behind a pair of a table in braces. -/
  | flowMappingKey
  /-- Behind a key of a table in braces. -/
  | flowMappingValue
  /-- Behind a key of a table in braces that has no value. -/
  | flowMappingNoValue
  /-- Behind the end of the text. -/
  | done
deriving DecidableEq, Repr

/-- The handles that need no declaration. -/
def defaultHandles : List (String × Bytes) :=
  [("!", Text.toBytes "!"), ("!!", Text.toBytes "tag:yaml.org,2002:")]

/-- The address of the tag that says nothing. -/
def neutralTag : Bytes := Text.toBytes "!"

/-- A text of which a part has been turned into events. -/
structure Grammar where
  /-- The tokens that follow. -/
  tokens : List Token
  /-- The fault behind them. -/
  fault : Option Fault
  /-- The place that has been reached. -/
  place : Place := .firstDocument
  /-- The places to come back to. -/
  pending : List Place := []
  /-- Where the open lists and tables begin, the innermost first. -/
  begun : List Mark := []
  /-- The handles of the document. -/
  handles : List (String × Bytes) := []

namespace Grammar

/-- An event with the place of its beginning, and what follows. -/
abbrev Step := Except Fault ((Event × Mark) × Grammar)

/-- The next token. -/
def peek (grammar : Grammar) : Except Fault Token :=
  match grammar.tokens with
  | token :: _ => .ok token
  | [] => .error (grammar.fault.getD { problem := .missingContent, mark := .origin })

/-- The grammar behind the next token. -/
def skip (grammar : Grammar) : Grammar :=
  { grammar with tokens := grammar.tokens.drop 1 }

/-- The grammar at another place. -/
def goto (grammar : Grammar) (place : Place) : Grammar :=
  { grammar with place }

/-- The grammar with a place to come back to. -/
def returningTo (grammar : Grammar) (place : Place) : Grammar :=
  { grammar with pending := place :: grammar.pending }

/-- The grammar at the place to come back to. -/
def back (grammar : Grammar) : Grammar :=
  { grammar with place := grammar.pending.headD .done, pending := grammar.pending.drop 1 }

/-- The grammar within a list or table that begins at a token. -/
def enter (grammar : Grammar) (token : Token) : Grammar :=
  { grammar.skip with begun := token.start :: grammar.begun }

/-- The grammar behind the innermost list or table, whose last token is next. -/
def leave (grammar : Grammar) : Grammar :=
  { grammar.skip.back with begun := grammar.begun.drop 1 }

/-- An event that takes no token. -/
def give (grammar : Grammar) (event : Event) (mark : Mark) : Step :=
  .ok ((event, mark), grammar)

/-- The scalar that stands where a value is missing. -/
def giveEmpty (grammar : Grammar) (mark : Mark) : Step :=
  grammar.give (.scalar none ⟨"", .plain, none⟩) mark

/-- The fault within the innermost list or table. -/
def brokenBlock (grammar : Grammar) (activity : Activity) (problem : Problem) (token : Token) :
    Fault :=
  .during activity (grammar.begun.headD .origin) problem token.start

/-- What stands in front of a node. -/
structure Properties where
  /-- Its name. -/
  anchor : Option String := none
  /-- Its tag, and where that stands. -/
  tag : Option (WrittenTag × Mark) := none
  /-- Where the node begins. -/
  start : Mark

/-- Read the name and the tag in front of a node, each at most once and in either order. -/
def properties (grammar : Grammar) : Except Fault (Properties × Grammar) := do
  let token ← grammar.peek
  let found : Properties := { start := token.start }
  match token.kind with
  | .anchor name =>
    let found := { found with anchor := some name }
    let next ← grammar.skip.peek
    match next.kind with
    | .tag tag => return ({ found with tag := some (tag, next.start) }, grammar.skip.skip)
    | _ => return (found, grammar.skip)
  | .tag tag =>
    let found := { found with tag := some (tag, token.start) }
    let next ← grammar.skip.peek
    match next.kind with
    | .anchor name => return ({ found with anchor := some name }, grammar.skip.skip)
    | _ => return (found, grammar.skip)
  | _ => return (found, grammar)

/-- The full address of a node's tag. -/
def resolveTag (grammar : Grammar) (found : Properties) : Except Fault (Option Bytes) :=
  match found.tag with
  | none => .ok none
  | some (tag, mark) =>
    if tag.handle.isEmpty then .ok (some tag.address)
    else
      match grammar.handles.lookup tag.handle with
      | some address => .ok (some (address ++ tag.address))
      | none => .error (.during .node found.start .undefinedTagHandle mark)

/-- A node: laid out by indentation or within brackets, and perhaps a list without indentation. -/
def node (grammar : Grammar) (block indentless : Bool) : Step := do
  let token ← grammar.peek
  if let .alias name := token.kind then
    return ((.alias name, token.start), grammar.skip.back)
  let (found, grammar) ← grammar.properties
  let tag ← grammar.resolveTag found
  let token ← grammar.peek
  let opened (event : Event) (place : Place) : Step := (grammar.goto place).give event found.start
  match token.kind, block with
  | .blockEntry, _ =>
    if indentless then opened (.sequenceStart found.anchor) .indentlessItem
    else content grammar block found tag token
  | .scalar text style, _ =>
    let tag := if tag = some neutralTag then none else tag
    grammar.skip.back.give (.scalar found.anchor ⟨text, style, tag⟩) found.start
  | .flowSequenceStart, _ => opened (.sequenceStart found.anchor) .flowSequenceFirst
  | .flowMappingStart, _ => opened (.mappingStart found.anchor) .flowMappingFirst
  | .blockSequenceStart, true => opened (.sequenceStart found.anchor) .blockSequenceFirst
  | .blockMappingStart, true => opened (.mappingStart found.anchor) .blockMappingFirst
  | _, _ => content grammar block found tag token
where
  /-- A node without content of its own: it is empty if it has a name or a tag. -/
  content (grammar : Grammar) (block : Bool) (found : Properties) (tag : Option Bytes)
      (token : Token) : Step :=
    if found.anchor.isSome || tag.isSome then
      grammar.back.give (.scalar found.anchor ⟨"", .plain, tag⟩) found.start
    else
      .error (.during (if block then .blockNode else .flowNode) found.start .missingContent
        token.start)

/-- A node behind a token, unless another token follows; then the node is empty. Either way the
grammar comes back to the given place. -/
def nodeUnless (grammar : Grammar) (block indentless : Bool) (place : Place)
    (ends : TokenKind → Bool) (empty : Mark) : Step := do
  let token ← grammar.peek
  if ends token.kind then (grammar.goto place).giveEmpty empty
  else (grammar.returningTo place).node block indentless

/-- Take in the directives in front of a document. -/
def directives (version : Bool) (handles : List (String × Bytes)) :
    List Token → Except Fault (List (String × Bytes) × List Token)
  | ⟨.directive (.version major minor), start, _⟩ :: rest =>
    if version then .error { problem := .duplicateVersion, mark := start }
    else if major ≠ 1 ∨ (minor ≠ 1 ∧ minor ≠ 2) then
      .error { problem := .foreignVersion, mark := start }
    else directives true handles rest
  | ⟨.directive (.tag handle address), start, _⟩ :: rest =>
    if (handles.lookup handle).isSome then .error { problem := .duplicateTagHandle, mark := start }
    else directives version (handles ++ [(handle, address)]) rest
  | rest => .ok (handles, rest)

/-- A document whose start is marked, or the end of the text. -/
def markedDocument (grammar : Grammar) : Step := do
  let token ← grammar.peek
  if token.kind = .streamEnd then
    (grammar.skip.goto .done).give .streamEnd token.start
  else
    let (handles, tokens) ← directives false [] grammar.tokens
    let grammar := { grammar with tokens, handles := handles ++ defaultHandles }
    let next ← grammar.peek
    if next.kind ≠ .documentStart then
      throw { problem := .missingDocumentStart, mark := next.start }
    ((grammar.skip.returningTo .documentEnd).goto .documentContent).give .documentStart token.start

/-- The first document. Its start need not be marked. -/
def firstDocument (grammar : Grammar) : Step := do
  let token ← grammar.peek
  match token.kind with
  | .directive _ | .documentStart | .streamEnd => grammar.markedDocument
  | _ =>
    (({ grammar with handles := defaultHandles }.returningTo .documentEnd).goto .documentNode).give
      .documentStart token.start

/-- A further document, behind marks of an end. -/
def nextDocument (grammar : Grammar) : Step :=
  { grammar with tokens := grammar.tokens.dropWhile (·.kind == TokenKind.documentEnd) }.markedDocument

/-- What follows the mark of a document's start. -/
def documentContent (grammar : Grammar) : Step := do
  let token ← grammar.peek
  match token.kind with
  | .directive _ | .documentStart | .documentEnd | .streamEnd =>
    grammar.back.giveEmpty token.start
  | _ => grammar.node true false

/-- The end of a document, marked or not. -/
def documentEnd (grammar : Grammar) : Step := do
  let token ← grammar.peek
  let grammar := if token.kind = .documentEnd then grammar.skip else grammar
  ({ grammar with handles := [] }.goto .nextDocument).give .documentEnd token.start

/-- An item of an indented list. -/
def blockSequenceItem (grammar : Grammar) : Step := do
  let token ← grammar.peek
  match token.kind with
  | .blockEntry =>
    grammar.skip.nodeUnless true false .blockSequenceItem
      (fun kind => kind == .blockEntry || kind == .blockEnd) token.stop
  | .blockEnd => grammar.leave.give .sequenceEnd token.start
  | _ => .error (grammar.brokenBlock .blockSequence .missingDash token)

/-- An item of a list without indentation. -/
def indentlessItem (grammar : Grammar) : Step := do
  let token ← grammar.peek
  match token.kind with
  | .blockEntry =>
    grammar.skip.nodeUnless true false .indentlessItem
      (fun kind => kind == .blockEntry || kind == .key || kind == .value || kind == .blockEnd)
      token.stop
  | _ => grammar.back.give .sequenceEnd token.start

/-- Whether a token can follow a key or value of an indented table that is empty. -/
def endsPart (kind : TokenKind) : Bool :=
  kind == .key || kind == .value || kind == .blockEnd

/-- A key of an indented table. -/
def blockMappingKey (grammar : Grammar) : Step := do
  let token ← grammar.peek
  match token.kind with
  | .key => grammar.skip.nodeUnless true true .blockMappingValue endsPart token.stop
  | .blockEnd => grammar.leave.give .mappingEnd token.start
  | _ => .error (grammar.brokenBlock .blockMapping .missingKey token)

/-- The value of a key in an indented table. -/
def blockMappingValue (grammar : Grammar) : Step := do
  let token ← grammar.peek
  match token.kind with
  | .value => grammar.skip.nodeUnless true true .blockMappingKey endsPart token.stop
  | _ => (grammar.goto .blockMappingKey).giveEmpty token.start

/-- Whether a token ends an item in brackets that is empty. -/
def endsItem (kind : TokenKind) : Bool :=
  kind == .flowEntry || kind == .flowSequenceEnd

/-- An item in brackets, behind the comma. -/
def flowSequenceEntry (grammar : Grammar) : Step := do
  let token ← grammar.peek
  match token.kind with
  | .key => (grammar.skip.goto .pairKey).give (.mappingStart none) token.start
  | .flowSequenceEnd => grammar.leave.give .sequenceEnd token.start
  | _ => (grammar.returningTo .flowSequenceItem).node false false

/-- What follows an item in brackets. -/
def flowSequenceItem (grammar : Grammar) : Step := do
  let token ← grammar.peek
  match token.kind with
  | .flowSequenceEnd => grammar.leave.give .sequenceEnd token.start
  | .flowEntry => grammar.skip.flowSequenceEntry
  | _ => .error (grammar.brokenBlock .flowSequence .brokenFlowSequence token)

/-- The key of a single pair. Where it is missing, the token that follows goes with it. -/
def pairKey (grammar : Grammar) : Step := do
  let token ← grammar.peek
  if token.kind == .value || endsItem token.kind then
    (grammar.skip.goto .pairValue).giveEmpty token.stop
  else (grammar.returningTo .pairValue).node false false

/-- The value of a single pair. -/
def pairValue (grammar : Grammar) : Step := do
  let token ← grammar.peek
  match token.kind with
  | .value =>
    let next ← grammar.skip.peek
    grammar.skip.nodeUnless false false .pairEnd endsItem next.start
  | _ => (grammar.goto .pairEnd).giveEmpty token.start

/-- The end of a single pair. -/
def pairEnd (grammar : Grammar) : Step := do
  let token ← grammar.peek
  (grammar.goto .flowSequenceItem).give .mappingEnd token.start

/-- Whether a token ends a key or value in braces that is empty. -/
def endsField (kind : TokenKind) : Bool :=
  kind == .flowEntry || kind == .flowMappingEnd

/-- A pair in braces, behind the comma. -/
def flowMappingEntry (grammar : Grammar) : Step := do
  let token ← grammar.peek
  match token.kind with
  | .key =>
    let next ← grammar.skip.peek
    grammar.skip.nodeUnless false false .flowMappingValue
      (fun kind => kind == .value || endsField kind) next.start
  | .flowMappingEnd => grammar.leave.give .mappingEnd token.start
  | _ => (grammar.returningTo .flowMappingNoValue).node false false

/-- What follows a pair in braces. -/
def flowMappingKey (grammar : Grammar) : Step := do
  let token ← grammar.peek
  match token.kind with
  | .flowMappingEnd => grammar.leave.give .mappingEnd token.start
  | .flowEntry => grammar.skip.flowMappingEntry
  | _ => .error (grammar.brokenBlock .flowMapping .brokenFlowMapping token)

/-- The value of a key in braces. -/
def flowMappingValue (grammar : Grammar) : Step := do
  let token ← grammar.peek
  match token.kind with
  | .value =>
    let next ← grammar.skip.peek
    grammar.skip.nodeUnless false false .flowMappingKey endsField next.start
  | _ => (grammar.goto .flowMappingKey).giveEmpty token.start

/-- The next event. -/
def step (grammar : Grammar) : Step := do
  match grammar.place with
  | .firstDocument => grammar.firstDocument
  | .nextDocument => grammar.nextDocument
  | .documentContent => grammar.documentContent
  | .documentNode => grammar.node true false
  | .documentEnd => grammar.documentEnd
  | .blockSequenceFirst => (grammar.enter (← grammar.peek)).blockSequenceItem
  | .blockSequenceItem => grammar.blockSequenceItem
  | .indentlessItem => grammar.indentlessItem
  | .blockMappingFirst => (grammar.enter (← grammar.peek)).blockMappingKey
  | .blockMappingKey => grammar.blockMappingKey
  | .blockMappingValue => grammar.blockMappingValue
  | .flowSequenceFirst => (grammar.enter (← grammar.peek)).flowSequenceEntry
  | .flowSequenceItem => grammar.flowSequenceItem
  | .pairKey => grammar.pairKey
  | .pairValue => grammar.pairValue
  | .pairEnd => grammar.pairEnd
  | .flowMappingFirst => (grammar.enter (← grammar.peek)).flowMappingEntry
  | .flowMappingKey => grammar.flowMappingKey
  | .flowMappingValue => grammar.flowMappingValue
  | .flowMappingNoValue =>
    (grammar.goto .flowMappingKey).giveEmpty (← grammar.peek).start
  | .done => .error { problem := .missingDocumentStart, mark := .origin }

end Grammar

/-- The events of a text, up to its end or its first fault. -/
structure Events where
  /-- The events with the places where they begin. -/
  events : List (Event × Mark)
  /-- The fault behind them. -/
  fault : Option Fault
deriving Repr

namespace Events

/-- The events from a place of the grammar on, at most `fuel` many. -/
def parseFrom : Nat → Grammar → Events
  | 0, _ => ⟨[], none⟩
  | fuel + 1, grammar =>
    match grammar.step with
    | .error fault => ⟨[], some fault⟩
    | .ok (found, next) =>
      if next.place = .done then ⟨[found], none⟩
      else
        let after := parseFrom fuel next
        { after with events := found :: after.events }

/-- The events of a text. A token gives at most three of them. -/
def ofText (text : String) : Events :=
  let found := Tokens.ofText text
  parseFrom (3 * found.tokens.length + 8)
    { tokens := found.tokens.drop 1, fault := found.fault }

end Events

end EditorBridge.Yaml
