import EditorBridge.Shell.Syntax

/-!
# Reading shell scripts

A script is read one line of commands at a time, because each line runs before the next one is
read. The reader is a recursive descent; its bound is computed from the length of the script, and
every call either goes down one level of the grammar or takes a byte.
-/

namespace EditorBridge.Shell

open Text (Bytes)

/-- A fault of a script, and the line it was found on. -/
structure SyntaxError where
  /-- The line. -/
  line : Nat
  /-- The words for it. -/
  text : String
deriving DecidableEq, Repr

/-- What is left of a script, and the number of its first line. -/
structure Input where
  /-- The remaining bytes. -/
  rest : Bytes
  /-- The line they begin on. -/
  line : Nat
deriving DecidableEq, Repr

namespace Reader

/-- A reader of some part of a script. -/
abbrev Reading := StateT Input (Except SyntaxError)

/-- The byte of an ASCII character. -/
def ascii (c : Char) : UInt8 := c.toNat.toUInt8

/-- The next byte. -/
def peek? : Reading (Option UInt8) := do
  return (← get).rest.head?

/-- Whether certain characters come next. -/
def looksAt (text : String) : Reading Bool := do
  return (Text.toBytes text).isPrefixOf (← get).rest

/-- Pass over some bytes. -/
def skip (count : Nat) : Reading Unit :=
  modify fun input =>
    let taken := input.rest.take count
    ⟨input.rest.drop count, input.line + (taken.filter (· = ascii '\n')).length⟩

/-- Pass over certain characters if they come next. -/
def accept (text : String) : Reading Bool := do
  let found ← looksAt text
  if found then skip (Text.toBytes text).length
  return found

/-- Take the bytes that have a property. -/
def takeWhile (p : UInt8 → Bool) : Reading Bytes := do
  let taken := (← get).rest.takeWhile p
  skip taken.length
  return taken

/-- A fault at the current line. -/
def fail {α : Type} (text : String) : Reading α := do
  throw ⟨(← get).line, "Syntax error: " ++ text⟩

/-- Whether a byte separates words on a line. -/
def isSeparator (b : UInt8) : Bool := b = ascii ' ' || b = ascii '\t'

/-- Whether a byte ends an unquoted word. -/
def endsWord (b : UInt8) : Bool :=
  isSeparator b || [ascii '\n', ascii ';', ascii '&', ascii '|', ascii '<', ascii '>', ascii '(',
    ascii ')'].contains b

/-- Whether a byte can be in a name. -/
def isNameByte (b : UInt8) : Bool :=
  let c := Char.ofNat b.toNat
  b < 128 && (c.isAlphanum || c == '_')

/-- Whether a byte is a digit. -/
def isDigitByte (b : UInt8) : Bool :=
  ascii '0' ≤ b && b ≤ ascii '9'

/-- Whether bytes are a name. -/
def isName (name : Bytes) : Bool :=
  match name with
  | [] => false
  | first :: _ => !isDigitByte first && name.all isNameByte

/-- Pass over blanks, joined lines and a comment. -/
def skipBlanks (fuel : Nat) : Reading Unit := do
  match fuel with
  | 0 => pure ()
  | fuel + 1 =>
    match (← get).rest with
    | 0x5c :: 0x0a :: _ => skip 2; skipBlanks fuel
    | 0x23 :: _ => let _ ← takeWhile (· ≠ ascii '\n')
    | b :: _ => if isSeparator b then skip 1; skipBlanks fuel
    | [] => pure ()

/-- Pass over blanks and line ends. -/
def skipLines (fuel : Nat) : Reading Unit := do
  match fuel with
  | 0 => pure ()
  | fuel + 1 =>
    skipBlanks fuel
    if ← accept "\n" then skipLines fuel

/-- The words that have a meaning where a command may begin. -/
def reserved : List String :=
  ["!", "case", "do", "done", "elif", "else", "esac", "fi", "for", "if", "in", "then", "until",
    "while", "\x7b", "\x7d"]

/-- The reserved word that comes next. -/
def reserved? : Reading (Option String) := do
  let word := (← get).rest.takeWhile (!endsWord ·)
  return reserved.find? fun name => Text.toBytes name == word

/-- The operators, longer ones first. -/
def operators : List String := ["&&", "||", ";;", ";", "&", "|", "(", ")"]

/-- The words for what comes next. -/
def describeNext : Reading String := do
  match ← peek? with
  | none => return "end of file"
  | some b =>
    if b = ascii '\n' then return "newline"
    for operator in operators do
      if ← looksAt operator then return "\"" ++ operator ++ "\""
    if b = ascii '<' || b = ascii '>' then return "redirection"
    match ← reserved? with
    | some name => return "\"" ++ name ++ "\""
    | none => return "word"

/-- What comes next has no place here. -/
def unexpected {α : Type} (expecting : Option String) : Reading α := do
  let found ← describeNext
  fail (found ++ " unexpected" ++
    match expecting with
    | some wanted => " (expecting \"" ++ wanted ++ "\")"
    | none => "")

/-- Take a reserved word that has to come. -/
def expectWord (fuel : Nat) (name : String) : Reading Unit := do
  skipBlanks fuel
  if (← reserved?) = some name then skip (Text.toBytes name).length
  else unexpected (some name)

/-- Whether a list of commands ends here. -/
def atListEnd : Reading Bool := do
  if (← get).rest.isEmpty then return true
  if (← looksAt ")") || (← looksAt ";;") then return true
  return match ← reserved? with
    | some name => ["do", "done", "elif", "else", "esac", "fi", "then", "\x7d"].contains name
    | none => false

/-- Add bytes to the pieces read so far, the last one first. -/
def pushBytes (quoted : Bool) (bytes : Bytes) : List Piece → List Piece
  | .bytes q before :: pieces =>
    if q = quoted then .bytes q (before ++ bytes) :: pieces
    else .bytes quoted bytes :: .bytes q before :: pieces
  | pieces => .bytes quoted bytes :: pieces

/-- The bytes of a word without any quotes or expansions. -/
def bareBytes? : Word → Option Bytes
  | [.bytes false bytes] => some bytes
  | _ => none

/-- The use of a parameter that an operator asks for. -/
def useOf (colon : Bool) (operator : UInt8) : Option ParameterUse :=
  if operator = ascii '-' then some (.fallback colon)
  else if operator = ascii '=' then some (.assign colon)
  else if operator = ascii '?' then some (.demand colon)
  else if operator = ascii '+' then some (.alternative colon)
  else none

/-- The name of a parameter: a name, a number, or one of the special characters. -/
def parameterName (inBraces : Bool) : Reading Bytes := do
  match ← peek? with
  | none => return []
  | some b =>
    if isDigitByte b then
      if inBraces then takeWhile isDigitByte else do skip 1; return [b]
    else if isNameByte b then takeWhile isNameByte
    else if [ascii '@', ascii '*', ascii '#', ascii '?', ascii '-', ascii '$',
        ascii '!'].contains b then do
      skip 1
      return [b]
    else return []

/-- The bytes of old-style substitution up to its end, with escapes of that level removed. -/
def backquoted (fuel : Nat) (taken : Bytes) : Reading Bytes := do
  match fuel with
  | 0 => fail "EOF in backquote substitution"
  | fuel + 1 =>
    match (← get).rest with
    | [] => fail "EOF in backquote substitution"
    | 0x60 :: _ => skip 1; return taken.reverse
    | 0x5c :: next :: _ =>
      skip 2
      if [0x60, 0x5c, 0x24].contains next then backquoted fuel (next :: taken)
      else backquoted fuel (next :: 0x5c :: taken)
    | b :: _ => skip 1; backquoted fuel (b :: taken)

/-- Run a reader on other bytes. -/
def onBytes {α : Type} (bytes : Bytes) (reading : Reading α) : Reading α := do
  let outer ← get
  set (⟨bytes, outer.line⟩ : Input)
  let found ← reading
  set outer
  return found

mutual

/-- What follows a dollar sign. -/
def readDollar (fuel : Nat) (quoted : Bool) : Reading Piece := do
  match fuel with
  | 0 => fail "too deep"
  | fuel + 1 =>
    if ← accept "((" then
      let expression ← readArithmetic fuel 0 []
      return .arithmetic quoted expression
    if ← accept "(" then
      let body ← readList fuel
      skipBlanks fuel
      if ← accept ")" then return .output quoted body
      unexpected (some ")")
    if ← accept "\x7b" then
      if (← accept "#") then
        if ← accept "\x7d" then return .parameter quoted [ascii '#'] .value []
        let name ← parameterName true
        if ← accept "\x7d" then return .parameter quoted name .length []
        let _ ← takeWhile (· ≠ ascii '\x7d')
        skip 1
        return .parameter quoted name .unknown []
      let name ← parameterName true
      if name.isEmpty then
        let _ ← readUntilBrace fuel quoted []
        return .parameter quoted name .unknown []
      if ← accept "\x7d" then return .parameter quoted name .value []
      let colon ← accept ":"
      match ← peek? with
      | none => fail "Missing '\x7d'"
      | some b =>
        skip 1
        let double ← if b = ascii '#' || b = ascii '%' then accept (String.ofList [Char.ofNat b.toNat])
          else pure false
        let argument ← readUntilBrace fuel quoted []
        if let some use := useOf colon b then return .parameter quoted name use argument
        else if !colon && (b = ascii '#' || b = ascii '%') then
          return .parameter quoted name (.strip (b = ascii '%') double) argument
        else return .parameter quoted name .unknown []
    let name ← parameterName false
    if name.isEmpty then return .bytes quoted [ascii '$']
    return .parameter quoted name .value []

/-- The word of a substitution in braces, with its end. -/
def readUntilBrace (fuel : Nat) (quoted : Bool) (pieces : List Piece) : Reading Word := do
  match fuel with
  | 0 => fail "Missing '\x7d'"
  | fuel + 1 =>
    if ← accept "\x7d" then return pieces.reverse
    if (← get).rest.isEmpty then fail "Missing '\x7d'"
    readUntilBrace fuel quoted (← readPiece fuel quoted pieces)

/-- An arithmetic expression up to the two brackets that close it. -/
def readArithmetic (fuel : Nat) (depth : Nat) (pieces : List Piece) : Reading Word := do
  match fuel with
  | 0 => fail "Missing '))'"
  | fuel + 1 =>
    if depth = 0 then
      if ← accept "))" then return pieces.reverse
    match (← get).rest with
    | [] => fail "Missing '))'"
    | 0x24 :: _ => skip 1; readArithmetic fuel depth ((← readDollar fuel true) :: pieces)
    | 0x28 :: _ => skip 1; readArithmetic fuel (depth + 1) (pushBytes true [0x28] pieces)
    | 0x29 :: _ => skip 1; readArithmetic fuel (depth - 1) (pushBytes true [0x29] pieces)
    | b :: _ => skip 1; readArithmetic fuel depth (pushBytes true [b] pieces)

/-- The inside of double quotes, with its end. -/
def readQuoted (fuel : Nat) (pieces : List Piece) : Reading (List Piece) := do
  match fuel with
  | 0 => fail "Unterminated quoted string"
  | fuel + 1 =>
    if ← accept "\"" then return pieces
    if (← get).rest.isEmpty then fail "Unterminated quoted string"
    readQuoted fuel (← readPiece fuel true pieces)

/-- The next piece of a word that has not ended. -/
def readPiece (fuel : Nat) (quoted : Bool) (pieces : List Piece) : Reading (List Piece) := do
  match fuel with
  | 0 => fail "too deep"
  | fuel + 1 =>
    match (← get).rest with
    | [] => return pieces
    | 0x24 :: _ => skip 1; return (← readDollar fuel quoted) :: pieces
    | 0x60 :: _ => do
      skip 1
      let body ← onBytes (← backquoted (fuel + 1) []) (readList fuel)
      return .output quoted body :: pieces
    | 0x5c :: 0x0a :: _ => skip 2; return pieces
    | 0x5c :: next :: _ =>
      skip 2
      if !quoted || [0x24, 0x60, 0x22, 0x5c, 0x7d].contains next then
        return pushBytes true [next] pieces
      else return pushBytes true [0x5c, next] pieces
    | 0x22 :: _ => do
      skip 1
      if quoted then return pushBytes true [0x22] pieces
      readQuoted fuel (.quotes :: pieces)
    | 0x27 :: _ => do
      skip 1
      if quoted then return pushBytes true [0x27] pieces
      let line := (← get).line
      let inside ← takeWhile (· ≠ ascii '\'')
      if (← get).rest.isEmpty then
        throw ⟨line, "Syntax error: Unterminated quoted string"⟩
      skip 1
      return pushBytes true inside (.quotes :: pieces)
    | b :: _ => skip 1; return pushBytes quoted [b] pieces

/-- A word up to its end. -/
def readWord (fuel : Nat) (pieces : List Piece) : Reading Word := do
  match fuel with
  | 0 => return pieces.reverse
  | fuel + 1 =>
    match (← get).rest with
    | [] => return pieces.reverse
    | b :: _ =>
      if endsWord b then return pieces.reverse
      readWord fuel (← readPiece fuel false pieces)

/-- A redirection, if one comes next. -/
def readRedirection? (fuel : Nat) : Reading (Option Redirection) := do
  match fuel with
  | 0 => return none
  | fuel + 1 =>
    let digits := (← get).rest.takeWhile isDigitByte
    let after := (← get).rest.drop digits.length
    if 1 < digits.length then return none
    let number (standard : Nat) : Nat := (digits.head?.map fun d => d.toNat - 48).getD standard
    let kind : Option (Nat × Direction × Nat) := match after with
      | 0x3c :: 0x26 :: _ => some (2, .copy, 0)
      | 0x3c :: 0x3e :: _ => some (2, .readWrite, 0)
      | 0x3c :: _ => some (1, .read, 0)
      | 0x3e :: 0x3e :: _ => some (2, .append, 1)
      | 0x3e :: 0x26 :: _ => some (2, .copy, 1)
      | 0x3e :: 0x7c :: _ => some (2, .write, 1)
      | 0x3e :: _ => some (1, .write, 1)
      | _ => none
    match kind with
    | none => return none
    | some (length, direction, standard) =>
      skip (digits.length + length)
      skipBlanks fuel
      let target ← readWord fuel []
      if target.isEmpty then unexpected none
      return some (.to (number standard) direction target)

/-- The redirections that follow a command. -/
def readRedirections (fuel : Nat) (found : List Redirection) : Reading (List Redirection) := do
  match fuel with
  | 0 => return found.reverse
  | fuel + 1 =>
    skipBlanks fuel
    match ← readRedirection? fuel with
    | some redirection => readRedirections fuel (redirection :: found)
    | none => return found.reverse

/-- The parts of a simple command, each list with the last part first. -/
def readSimple (fuel : Nat) (line : Nat) (assignments : List (Bytes × Word)) (words : List Word)
    (redirections : List Redirection) : Reading Command := do
  match fuel with
  | 0 => fail "too deep"
  | fuel + 1 =>
    skipBlanks fuel
    if let some redirection ← readRedirection? fuel then
      return ← readSimple fuel line assignments words (redirection :: redirections)
    let name := (← get).rest.takeWhile isNameByte
    if words.isEmpty && isName name && ((← get).rest.drop name.length).head? == some (ascii '=') then
      skip (name.length + 1)
      let value ← readWord fuel []
      return ← readSimple fuel line ((name, value) :: assignments) words redirections
    let word ← readWord fuel []
    if !word.isEmpty then
      return ← readSimple fuel line assignments (word :: words) redirections
    if (← looksAt "(") && words.length == 1 && assignments.isEmpty && redirections.isEmpty then
      skip 1
      skipBlanks fuel
      if !(← accept ")") then unexpected (some ")")
      match words.head?.bind bareBytes? with
      | some name =>
        if !isName name then fail "Bad function name"
        skipLines fuel
        return .define name (← readCommand fuel)
      | none => fail "Bad function name"
    if assignments.isEmpty && words.isEmpty && redirections.isEmpty then unexpected none
    return .simple line assignments.reverse words.reverse redirections.reverse

/-- The rest of a choice after its first word. -/
def readChoice (fuel : Nat) : Reading Command := do
  match fuel with
  | 0 => fail "too deep"
  | fuel + 1 =>
    let condition ← readList fuel
    expectWord fuel "then"
    let yes ← readList fuel
    skipBlanks fuel
    match ← reserved? with
    | some "elif" => skip 4; return .choice condition yes (← readChoice fuel)
    | some "else" => do
      skip 4
      let no ← readList fuel
      expectWord fuel "fi"
      return .choice condition yes no
    | _ => expectWord fuel "fi"; return .choice condition yes .nothing

/-- The body of a loop. -/
def readBody (fuel : Nat) : Reading Command := do
  match fuel with
  | 0 => fail "too deep"
  | fuel + 1 =>
    expectWord fuel "do"
    let body ← readList fuel
    expectWord fuel "done"
    return body

/-- Words up to the end of the line or a semicolon. -/
def readWords (fuel : Nat) (words : List Word) : Reading (List Word) := do
  match fuel with
  | 0 => return words.reverse
  | fuel + 1 =>
    skipBlanks fuel
    let word ← readWord fuel []
    if word.isEmpty then return words.reverse
    readWords fuel (word :: words)

/-- The patterns of one clause. -/
def readPatterns (fuel : Nat) (patterns : List Word) : Reading (List Word) := do
  match fuel with
  | 0 => fail "too deep"
  | fuel + 1 =>
    skipBlanks fuel
    let pattern ← readWord fuel []
    if pattern.isEmpty then unexpected (some ")")
    skipBlanks fuel
    if ← accept "|" then return ← readPatterns fuel (pattern :: patterns)
    if !(← accept ")") then unexpected (some ")")
    return (pattern :: patterns).reverse

/-- The clauses of a choice by patterns, with its end. -/
def readClauses (fuel : Nat) (clauses : List (List Word × Command)) :
    Reading (List (List Word × Command)) := do
  match fuel with
  | 0 => fail "too deep"
  | fuel + 1 =>
    skipLines fuel
    if (← reserved?) = some "esac" then
      skip 4
      return clauses.reverse
    let _ ← accept "("
    let patterns ← readPatterns fuel []
    let body ← readList fuel
    skipBlanks fuel
    if ← accept ";;" then readClauses fuel ((patterns, body) :: clauses)
    else
      expectWord fuel "esac"
      return ((patterns, body) :: clauses).reverse

/-- A command that begins with a reserved word, if there is one. -/
def readCompound? (fuel : Nat) : Reading (Option Command) := do
  match fuel with
  | 0 => return none
  | fuel + 1 =>
    let line := (← get).line
    if ← accept "(" then
      let body ← readList fuel
      skipBlanks fuel
      if ← accept ")" then return some (.subshell body)
      unexpected (some ")")
    match ← reserved? with
    | some "if" => skip 2; return some (← readChoice fuel)
    | some "while" => do
      skip 5
      let condition ← readList fuel
      return some (.loop false condition (← readBody fuel))
    | some "until" => do
      skip 5
      let condition ← readList fuel
      return some (.loop true condition (← readBody fuel))
    | some "\x7b" => do
      skip 1
      let body ← readList fuel
      expectWord fuel "\x7d"
      return some body
    | some "for" => do
      skip 3
      skipBlanks fuel
      match bareBytes? (← readWord fuel []) with
      | some name =>
        if !isName name then fail "Bad for loop variable"
        skipLines fuel
        if (← reserved?) = some "in" then
          skip 2
          let words ← readWords fuel []
          let _ ← accept ";"
          skipLines fuel
          return some (.each line name (some words) (← readBody fuel))
        let _ ← accept ";"
        skipLines fuel
        return some (.each line name none (← readBody fuel))
      | none => fail "Bad for loop variable"
    | some "case" => do
      skip 4
      skipBlanks fuel
      let word ← readWord fuel []
      skipLines fuel
      expectWord fuel "in"
      return some (.select line word (← readClauses fuel []))
    | some "!" => return none
    | some _ => unexpected none
    | none => return none

/-- A command with its redirections. -/
def readCommand (fuel : Nat) : Reading Command := do
  match fuel with
  | 0 => fail "too deep"
  | fuel + 1 =>
    skipBlanks fuel
    let line := (← get).line
    match ← readCompound? fuel with
    | some body =>
      let redirections ← readRedirections fuel []
      return if redirections.isEmpty then body else .redirected line body redirections
    | none => readSimple fuel line [] [] []

/-- Commands joined by bars, the last one first. -/
def readBars (fuel : Nat) (commands : List Command) : Reading (List Command) := do
  match fuel with
  | 0 => fail "too deep"
  | fuel + 1 =>
    let commands := (← readCommand fuel) :: commands
    skipBlanks fuel
    if ← looksAt "||" then return commands
    if ← accept "|" then
      skipLines fuel
      readBars fuel commands
    else return commands

/-- A pipeline, which may be turned around. -/
def readPipeline (fuel : Nat) : Reading Command := do
  match fuel with
  | 0 => fail "too deep"
  | fuel + 1 =>
    skipBlanks fuel
    if (← reserved?) = some "!" then
      skip 1
      return .negation (← readPipeline fuel)
    match ← readBars fuel [] with
    | [command] => return command
    | commands => return .pipeline commands.reverse

/-- Pipelines that depend on the success of what is before them. -/
def readConditional (fuel : Nat) (first : Option Command) : Reading Command := do
  match fuel with
  | 0 => fail "too deep"
  | fuel + 1 =>
    let first ← match first with
      | some command => pure command
      | none => readPipeline fuel
    skipBlanks fuel
    if ← accept "&&" then
      skipLines fuel
      readConditional fuel (some (.both first (← readPipeline fuel)))
    else if ← accept "||" then
      skipLines fuel
      readConditional fuel (some (.either first (← readPipeline fuel)))
    else return first

/-- The commands of one line. -/
def readLine (fuel : Nat) : Reading Command := do
  match fuel with
  | 0 => fail "too deep"
  | fuel + 1 =>
    let first ← readConditional fuel none
    skipBlanks fuel
    let inBackground := !(← looksAt "&&") && (← looksAt "&")
    let separated ← if ← looksAt ";;" then pure false
      else if inBackground then accept "&" else accept ";"
    let first := if inBackground then .background first else first
    skipBlanks fuel
    if !separated || (← looksAt "\n") || (← atListEnd) then return first
    return .sequence first (← readLine fuel)

/-- Lines of commands up to what ends a list. -/
def readList (fuel : Nat) : Reading Command := do
  match fuel with
  | 0 => fail "too deep"
  | fuel + 1 =>
    skipLines fuel
    if ← atListEnd then return .nothing
    let first ← readLine fuel
    skipBlanks fuel
    if ← looksAt "\n" then return .sequence first (← readList fuel)
    return first

end

/-- A bound on the calls that reading a script takes. -/
def bound (input : Input) : Nat :=
  40 * input.rest.length + 100

/-- The commands of the next line, if there is one. -/
def nextLine? (input : Input) : Except SyntaxError (Option Command × Input) :=
  let fuel := bound input
  let reading : Reading (Option Command) := do
    skipBlanks fuel
    if ← accept "\n" then return some .nothing
    if (← get).rest.isEmpty then return none
    let command ← readLine fuel
    skipBlanks fuel
    if !(← get).rest.isEmpty && !(← accept "\n") then unexpected none
    return some command
  reading.run input

end Reader

end EditorBridge.Shell
