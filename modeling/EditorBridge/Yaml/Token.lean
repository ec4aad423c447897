import EditorBridge.Yaml.Scalar.Block
import EditorBridge.Yaml.Scalar.Plain
import EditorBridge.Yaml.Tag

/-!
# Tokens

The tokens of a YAML text, indentation being a token of its own. A key on one line is recognised
only by the colon behind it, and then a token is put in front of it. So a token is released only
when it is certain that nothing will be put in front of it, and where a text turns out to be faulty
the tokens released before are still given.
-/

namespace EditorBridge.Yaml

/-- The kinds of tokens. -/
inductive TokenKind where
  /-- The beginning of the text. -/
  | streamStart
  /-- The end of the text. -/
  | streamEnd
  /-- A directive. -/
  | directive (content : Directive)
  /-- The mark of a document's start. -/
  | documentStart
  /-- The mark of a document's end. -/
  | documentEnd
  /-- The beginning of an indented list. -/
  | blockSequenceStart
  /-- The beginning of an indented table. -/
  | blockMappingStart
  /-- The end of an indented list or table. -/
  | blockEnd
  /-- An opening bracket. -/
  | flowSequenceStart
  /-- A closing bracket. -/
  | flowSequenceEnd
  /-- An opening brace. -/
  | flowMappingStart
  /-- A closing brace. -/
  | flowMappingEnd
  /-- The dash before an item. -/
  | blockEntry
  /-- The comma behind an item. -/
  | flowEntry
  /-- What follows is a key. -/
  | key
  /-- What follows is a value. -/
  | value
  /-- The name of another node. -/
  | alias (name : String)
  /-- The name of the node that follows. -/
  | anchor (name : String)
  /-- The tag of the node that follows. -/
  | tag (written : WrittenTag)
  /-- A scalar. -/
  | scalar (text : String) (style : Style)
deriving DecidableEq, Repr

/-- A token at its place. -/
structure Token where
  /-- What it is. -/
  kind : TokenKind
  /-- Where it begins. -/
  start : Mark
  /-- Where it ends. -/
  stop : Mark
deriving DecidableEq, Repr

/-- A place where a key on one line may have begun. -/
structure PossibleKey where
  /-- The number of the token that would be the key. -/
  token : Nat
  /-- Whether nothing but a key can begin there. -/
  required : Bool
  /-- Where it began. -/
  mark : Mark
deriving DecidableEq, Repr

namespace PossibleKey

/-- The fault of a key that was required and is none. -/
def fault (key : PossibleKey) (mark : Mark) : Fault :=
  .during .simpleKey key.mark .missingColon mark

/-- How many characters a key on one line may have. -/
def lengthLimit : Nat := 1024

/-- Whether the text has gone on too far for the key to be one. -/
def isStale (key : PossibleKey) (mark : Mark) : Bool :=
  key.mark.line < mark.line || key.mark.index + lengthLimit < mark.index

end PossibleKey

/-- A text of which a part has been cut into tokens. -/
structure Scanner where
  /-- What is left of the text. -/
  rest : Rest
  /-- The tokens released so far, the last one first. -/
  released : List Token := []
  /-- The tokens that something may still be put in front of. -/
  held : List Token := []
  /-- Whether a key may begin at this place. -/
  keyAllowed : Bool := true
  /-- The key that may have begun within the innermost brackets. -/
  key : Option PossibleKey := none
  /-- The keys that may have begun around the brackets, from the inside out. -/
  outerKeys : List (Option PossibleKey) := []
  /-- The columns of the lists and tables that are open, from the inside out. -/
  indents : List Nat := []

namespace Scanner

/-- Where the text goes on. -/
def mark (scanner : Scanner) : Mark :=
  scanner.rest.mark

/-- Whether the text goes on within brackets or braces. -/
def inFlow (scanner : Scanner) : Bool :=
  !scanner.outerKeys.isEmpty

/-- The column of the innermost open list or table. -/
def indent? (scanner : Scanner) : Option Nat :=
  scanner.indents.head?

/-- The number of the next token. -/
def nextToken (scanner : Scanner) : Nat :=
  scanner.released.length + scanner.held.length

/-- The scanner with a token more. -/
def push (scanner : Scanner) (token : Token) : Scanner :=
  { scanner with held := scanner.held ++ [token] }

/-- The scanner with a token put in front of the one that has the given number. -/
def insert (scanner : Scanner) (number : Nat) (token : Token) : Scanner :=
  let place := number - scanner.released.length
  { scanner with held := scanner.held.take place ++ token :: scanner.held.drop place }

/-- A token without extent at the current place. -/
def here (scanner : Scanner) (kind : TokenKind) : Token :=
  ⟨kind, scanner.mark, scanner.mark⟩

/-- The scanner behind a token of some characters. -/
def take (scanner : Scanner) (kind : TokenKind) (width : Nat) : Scanner :=
  let rest := scanner.rest.drop width
  { scanner.push ⟨kind, scanner.mark, rest.mark⟩ with rest }

/-- One place where a key may have begun, once the text has gone on. -/
def dropStaleKey (mark : Mark) : Option PossibleKey → Except Fault (Option PossibleKey)
  | none => .ok none
  | some key =>
    if !key.isStale mark then .ok (some key)
    else if key.required then .error (key.fault mark)
    else .ok none

/-- Give up the keys that the text has gone on too far for. -/
def dropStaleKeys (scanner : Scanner) : Except Fault Scanner := do
  let outerKeys ← scanner.outerKeys.reverse.mapM (dropStaleKey scanner.mark)
  let key ← dropStaleKey scanner.mark scanner.key
  return { scanner with key, outerKeys := outerKeys.reverse }

/-- Give up the innermost key. -/
def dropKey (scanner : Scanner) : Except Fault Scanner :=
  match scanner.key with
  | some key =>
    if key.required then .error (key.fault scanner.mark) else .ok { scanner with key := none }
  | none => .ok scanner

/-- Note that a key may begin here. -/
def noteKey (scanner : Scanner) : Except Fault Scanner :=
  if scanner.keyAllowed then do
    let required := !scanner.inFlow && scanner.indent? == some scanner.mark.column
    let key : PossibleKey := ⟨scanner.nextToken, required, scanner.mark⟩
    return { ← scanner.dropKey with key := some key }
  else .ok scanner

/-- Whether a token at a column is indented more than what is open. -/
def isIndented (scanner : Scanner) (column : Nat) : Bool :=
  !scanner.inFlow && scanner.indent?.all (· < column)

/-- Open a list or table at the current column, if it is indented more than what is open. -/
def openBlock (scanner : Scanner) (kind : TokenKind) : Scanner :=
  if scanner.isIndented scanner.mark.column then
    { scanner.push (scanner.here kind) with indents := scanner.mark.column :: scanner.indents }
  else scanner

/-- Close the lists and tables that are indented more than a column; without one, all. -/
def closeBlocks (scanner : Scanner) (column : Option Nat) : Scanner :=
  if scanner.inFlow then scanner
  else
    let isClosed (indent : Nat) : Bool := column.all (· < indent)
    let closed := scanner.indents.takeWhile isClosed
    { scanner with
      held := scanner.held ++ closed.map fun _ => scanner.here .blockEnd
      indents := scanner.indents.dropWhile isClosed }

/-- Leave out what separates tokens: blanks, comments and breaks. Outside of brackets a tab does
not separate where a key may begin, and behind a break a key may begin. -/
def skipSeparators (inFlow : Bool) (stop : Mark) (keyAllowed inComment : Bool) :
    List Spot → Bool × Rest
  | [] => (keyAllowed, ⟨[], stop⟩)
  | ⟨c, mark⟩ :: spots =>
    if isBreak c then skipSeparators inFlow stop (keyAllowed || !inFlow) false spots
    else if inComment || (mark.column == 0 && c == '\ufeff') || c == ' '
        || (c == '\t' && (inFlow || !keyAllowed)) then
      skipSeparators inFlow stop keyAllowed inComment spots
    else if c == '#' then skipSeparators inFlow stop keyAllowed true spots
    else (keyAllowed, ⟨⟨c, mark⟩ :: spots, stop⟩)

/-- The scanner at the next token. -/
def toNext (scanner : Scanner) : Scanner :=
  let (keyAllowed, rest) :=
    skipSeparators scanner.inFlow scanner.rest.stop scanner.keyAllowed false scanner.rest.spots
  { scanner with keyAllowed, rest }

/-- The end of the text. It is at the beginning of a line. -/
def fetchEnd (scanner : Scanner) : Except Fault Scanner := do
  let mark := scanner.mark
  let stop := if mark.column = 0 then mark else mark.nextLine 0
  let scanner ← ({ scanner with rest := ⟨[], stop⟩ }.closeBlocks none).dropKey
  return { scanner.push (scanner.here .streamEnd) with keyAllowed := false }

/-- A directive. -/
def fetchDirective (scanner : Scanner) : Except Fault Scanner := do
  let scanner ← (scanner.closeBlocks none).dropKey
  let (content, stop, rest) ← directive scanner.rest
  return { scanner.push ⟨.directive content, scanner.mark, stop⟩ with rest, keyAllowed := false }

/-- The mark of a document's start or end. -/
def fetchFence (scanner : Scanner) (kind : TokenKind) : Except Fault Scanner := do
  let scanner ← (scanner.closeBlocks none).dropKey
  return { scanner.take kind 3 with keyAllowed := false }

/-- An opening bracket or brace. -/
def fetchFlowStart (scanner : Scanner) (kind : TokenKind) : Except Fault Scanner := do
  let scanner ← scanner.noteKey
  return { scanner.take kind 1 with
    key := none, outerKeys := scanner.key :: scanner.outerKeys, keyAllowed := true }

/-- A closing bracket or brace. -/
def fetchFlowEnd (scanner : Scanner) (kind : TokenKind) : Except Fault Scanner := do
  let scanner ← scanner.dropKey
  let scanner :=
    match scanner.outerKeys with
    | [] => scanner
    | key :: outerKeys => { scanner with key, outerKeys }
  return { scanner.take kind 1 with keyAllowed := false }

/-- A comma. -/
def fetchFlowEntry (scanner : Scanner) : Except Fault Scanner := do
  return { (← scanner.dropKey).take .flowEntry 1 with keyAllowed := true }

/-- The fault of a token where it may not stand. -/
def misplaced (scanner : Scanner) (problem : Problem) : Fault :=
  { problem, mark := scanner.mark }

/-- The dash before an item. -/
def fetchBlockEntry (scanner : Scanner) : Except Fault Scanner := do
  if !scanner.inFlow && !scanner.keyAllowed then throw (scanner.misplaced .misplacedEntry)
  let scanner ← (scanner.openBlock .blockSequenceStart).dropKey
  return { scanner.take .blockEntry 1 with keyAllowed := true }

/-- The question mark before a key. -/
def fetchKey (scanner : Scanner) : Except Fault Scanner := do
  if !scanner.inFlow && !scanner.keyAllowed then throw (scanner.misplaced .misplacedKey)
  let scanner ← (scanner.openBlock .blockMappingStart).dropKey
  return { scanner.take .key 1 with keyAllowed := !scanner.inFlow }

/-- Put what a key needs in front of it. -/
def insertKey (scanner : Scanner) (key : PossibleKey) : Scanner :=
  let scanner := scanner.insert key.token ⟨.key, key.mark, key.mark⟩
  if scanner.isIndented key.mark.column then
    { scanner.insert key.token ⟨.blockMappingStart, key.mark, key.mark⟩ with
      indents := key.mark.column :: scanner.indents }
  else scanner

/-- The colon before a value. -/
def fetchValue (scanner : Scanner) : Except Fault Scanner := do
  match scanner.key with
  | some key =>
    return { (scanner.insertKey key).take .value 1 with key := none, keyAllowed := false }
  | none =>
    if !scanner.inFlow && !scanner.keyAllowed then throw (scanner.misplaced .misplacedValue)
    return { (scanner.openBlock .blockMappingStart).take .value 1 with
      keyAllowed := !scanner.inFlow }

/-- The name of a node or of another node. -/
def fetchName (scanner : Scanner) (activity : Activity) (kind : String → TokenKind) :
    Except Fault Scanner := do
  let scanner ← scanner.noteKey
  let (name, rest) ← nodeName activity scanner.rest
  return { scanner.push ⟨kind name, scanner.mark, rest.mark⟩ with rest, keyAllowed := false }

/-- A tag. -/
def fetchTag (scanner : Scanner) : Except Fault Scanner := do
  let scanner ← scanner.noteKey
  let (written, rest) ← writtenTag scanner.inFlow scanner.rest
  return { scanner.push ⟨.tag written, scanner.mark, rest.mark⟩ with rest, keyAllowed := false }

/-- The scanner behind a scalar. -/
def takeScalar (scanner : Scanner) (style : Style) (found : ScannedScalar) : Scanner :=
  { scanner.push ⟨.scalar (String.ofList found.text) style, scanner.mark, found.stop⟩ with
    rest := found.rest }

/-- A block scalar. -/
def fetchBlockScalar (scanner : Scanner) (style : Style) : Except Fault Scanner := do
  let scanner ← scanner.dropKey
  let found ← blockScalar (style == .literal) scanner.indent? scanner.rest
  return { scanner.takeScalar style found with keyAllowed := true }

/-- A scalar in quotes. -/
def fetchQuotedScalar (scanner : Scanner) (style : Style) : Except Fault Scanner := do
  let scanner ← scanner.noteKey
  let found ← quotedScalar (style == .double) scanner.rest
  return { scanner.takeScalar style found with keyAllowed := false }

/-- A plain scalar. -/
def fetchPlainScalar (scanner : Scanner) : Except Fault Scanner := do
  let scanner ← scanner.noteKey
  let indent := (scanner.indent?.map (· + 1)).getD 0
  let found ← plainScalar scanner.inFlow indent scanner.rest
  return { scanner.takeScalar .plain found with keyAllowed := found.endsLine }

/-- The characters that no plain scalar begins with, dashes, question marks and colons apart. -/
def indicators : List Char := ",[]\x7b\x7d#&*!|>'\"%@\x60".toList

/-- Whether a plain scalar begins at a place. -/
def startsPlain (scanner : Scanner) (c : Char) : Bool :=
  if c == '-' then !(scanner.rest.char? 1).any isBlank
  else if c == '?' || c == ':' then !scanner.inFlow && !scanner.rest.isBlankOrEnd 1
  else !(isBlank c || isBreak c || indicators.contains c)

/-- The token that begins with a character. -/
def fetchAt (scanner : Scanner) (c : Char) : Except Fault Scanner :=
  let separated := scanner.rest.isBlankOrEnd 1
  if scanner.mark.column == 0 && c == '%' then scanner.fetchDirective
  else if scanner.rest.isFence '-' then scanner.fetchFence .documentStart
  else if scanner.rest.isFence '.' then scanner.fetchFence .documentEnd
  else if c == '[' then scanner.fetchFlowStart .flowSequenceStart
  else if c == '\x7b' then scanner.fetchFlowStart .flowMappingStart
  else if c == ']' then scanner.fetchFlowEnd .flowSequenceEnd
  else if c == '\x7d' then scanner.fetchFlowEnd .flowMappingEnd
  else if c == ',' then scanner.fetchFlowEntry
  else if c == '-' && separated then scanner.fetchBlockEntry
  else if c == '?' && (scanner.inFlow || separated) then scanner.fetchKey
  else if c == ':' && (scanner.inFlow || separated) then scanner.fetchValue
  else if c == '*' then scanner.fetchName .alias .alias
  else if c == '&' then scanner.fetchName .anchor .anchor
  else if c == '!' then scanner.fetchTag
  else if c == '|' && !scanner.inFlow then scanner.fetchBlockScalar .literal
  else if c == '>' && !scanner.inFlow then scanner.fetchBlockScalar .folded
  else if c == '\'' then scanner.fetchQuotedScalar .single
  else if c == '"' then scanner.fetchQuotedScalar .double
  else if scanner.startsPlain c then scanner.fetchPlainScalar
  else .error (.during .nextToken scanner.mark .strayCharacter scanner.mark)

/-- Fetch the next token, and all that comes with it. -/
def fetch (scanner : Scanner) : Except Fault Scanner := do
  let scanner ← scanner.toNext.dropStaleKeys
  let scanner := scanner.closeBlocks (some scanner.mark.column)
  match scanner.rest.head? with
  | none => scanner.fetchEnd
  | some c => scanner.fetchAt c

/-- Whether something may still be put in front of a token. -/
def isHeld (scanner : Scanner) (number : Nat) : Bool :=
  (scanner.key :: scanner.outerKeys).any (·.any (·.token == number))

/-- Release the tokens in front of which nothing will be put. -/
def release (scanner : Scanner) : Scanner :=
  let rec go (released : List Token) (number : Nat) : List Token → List Token × List Token
    | [] => (released, [])
    | token :: held =>
      if scanner.isHeld number then (released, token :: held)
      else go (token :: released) (number + 1) held
  let (released, held) := go scanner.released scanner.released.length scanner.held
  { scanner with released, held }

/-- Whether the end of the text has been fetched. -/
def isDone (scanner : Scanner) : Bool :=
  scanner.held.getLast?.any (·.kind == .streamEnd)

end Scanner

/-- The tokens of a text, up to its end or its first fault. -/
structure Tokens where
  /-- The tokens. -/
  tokens : List Token
  /-- The fault behind them. -/
  fault : Option Fault
deriving Repr

namespace Tokens

/-- The tokens from a scanner on, at most as many as `fuel` times fetched. -/
def scanFrom : Nat → Scanner → Tokens
  | 0, scanner => ⟨scanner.released.reverse, none⟩
  | fuel + 1, scanner =>
    match scanner.fetch with
    | .error fault => ⟨scanner.released.reverse, some fault⟩
    | .ok fetched =>
      match fetched.dropStaleKeys with
      | .error fault => ⟨fetched.released.reverse, some fault⟩
      | .ok fresh =>
        if fresh.isDone then ⟨(fresh.held.reverse ++ fresh.released).reverse, none⟩
        else scanFrom fuel fresh.release

/-- The tokens of a text. Each fetch but the last takes a character at least. -/
def ofText (text : String) : Tokens :=
  let rest := Rest.ofText text
  let start : Token := ⟨.streamStart, .origin, .origin⟩
  match controlFault? 0 text.toList with
  | some fault => ⟨[start], some fault⟩
  | none => scanFrom (rest.spots.length + 1) { rest, released := [start] }

end Tokens

end EditorBridge.Yaml
