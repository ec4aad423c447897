import EditorBridge.Yaml.Scalar.Quoted

/-!
# Block scalars

A block scalar is a header and the indented lines below it. Its indentation is given in the header
or by the first line that is not empty. Its lines are kept, or joined where neither of two
neighbours begins with a blank; the header also says what becomes of the breaks at its end.
-/

namespace EditorBridge.Yaml

/-- What becomes of the breaks at the end of a block. -/
inductive Chomping where
  /-- None is kept. -/
  | strip
  /-- The first is kept. -/
  | clip
  /-- All are kept. -/
  | keep
deriving DecidableEq, Repr

/-- The sign for a treatment of the last breaks. -/
def Chomping.ofSign? (c : Char) : Option Chomping :=
  if c = '+' then some .keep else if c = '-' then some .strip else none

/-- The digits zero to nine. -/
def isDigit (c : Char) : Bool :=
  '0' ≤ c && c ≤ '9'

/-- What the header of a block says. -/
structure BlockHeader where
  /-- The treatment of the last breaks. -/
  chomping : Chomping := .clip
  /-- The indentation relative to that around the block, if it is given. -/
  increment : Option Nat := none

namespace BlockHeader

/-- Read the sign that a rest may begin with. -/
def sign (header : BlockHeader) (rest : Rest) : Option (BlockHeader × Rest) := do
  let chomping ← Chomping.ofSign? (← rest.head?)
  return ({ header with chomping }, rest.drop 1)

/-- Read the indentation that a rest may begin with. -/
def indentation (header : BlockHeader) (start : Mark) (rest : Rest) :
    Except Fault (Option (BlockHeader × Rest)) :=
  match rest.head? with
  | some c =>
    if !isDigit c then .ok none
    else if c = '0' then .error (.during .blockScalar start .zeroIndentation rest.mark)
    else .ok (some ({ header with increment := hexDigit? c }, rest.drop 1))
  | none => .ok none

/-- Read a header: a sign and an indentation, each at most once and in either order. -/
def read (start : Mark) (rest : Rest) : Except Fault (BlockHeader × Rest) := do
  let empty : BlockHeader := {}
  match empty.sign rest with
  | some (header, rest) => return (← header.indentation start rest).getD (header, rest)
  | none =>
    match ← empty.indentation start rest with
    | some (header, rest) => return (header.sign rest).getD (header, rest)
    | none => return (empty, rest)

end BlockHeader

/-- What a block scalar depends on. -/
structure BlockContext where
  /-- Whether its lines are kept. -/
  literal : Bool
  /-- The treatment of its last breaks. -/
  chomping : Chomping
  /-- The least indentation that its first line can set. -/
  least : Nat
  /-- Where it begins. -/
  start : Mark

/-- A block scalar that has been read in part. -/
structure BlockState where
  /-- Its text in reverse order. -/
  text : List Char := []
  /-- Its indentation, once it is known. -/
  indent : Option Nat
  /-- The widest indentation met before it was known. -/
  widest : Nat := 0
  /-- Whether a line has begun that does not end yet. -/
  inLine : Bool := false
  /-- Whether the last line began with a blank. -/
  blankStart : Bool := false
  /-- The break at the end of the last line. -/
  first : List Char := []
  /-- The breaks after it, in reverse order. -/
  more : List Char := []
  /-- Where the last line or break ended. -/
  stop : Mark

namespace BlockState

/-- The indentation that is set by a first line in the given column. -/
def indentFrom (context : BlockContext) (state : BlockState) (column : Nat) : Nat :=
  state.indent.getD (max (max state.widest column) context.least)

/-- The breaks before a line that begins with or without a blank, in reverse order. -/
def breaksBefore (context : BlockContext) (state : BlockState) (blank : Bool) : List Char :=
  if !context.literal && state.first == ['\n'] && !state.blankStart && !blank then
    if state.more.isEmpty then [' '] else state.more
  else state.more ++ state.first

/-- The state when a line has begun with a character. -/
def beginLine (context : BlockContext) (state : BlockState) (c : Char) (indent : Nat) :
    BlockState :=
  { state with
    text := c :: (state.breaksBefore context (isBlank c) ++ state.text)
    indent := some indent
    inLine := true
    blankStart := isBlank c
    first := []
    more := [] }

/-- The scalar that has been read when nothing more belongs to it. -/
def finish (context : BlockContext) (state : BlockState) (rest : Rest) : ScannedScalar where
  text :=
    match context.chomping with
    | .strip => state.text.reverse
    | .clip => (state.first ++ state.text).reverse
    | .keep => (state.more ++ state.first ++ state.text).reverse
  stop := state.stop
  rest := rest

end BlockState

/-- Read a block scalar on from a state. -/
def readBlock (context : BlockContext) (stop : Mark) (state : BlockState) :
    List Spot → Except Fault ScannedScalar
  | [] => .ok (({ state with stop := if state.inLine then stop else state.stop }).finish context
      ⟨[], stop⟩)
  | ⟨c, mark⟩ :: spots =>
    let rest : Rest := ⟨⟨c, mark⟩ :: spots, stop⟩
    let after := Rest.mark ⟨spots, stop⟩
    if state.inLine then
      if isBreak c then
        readBlock context stop { state with inLine := false, first := [c], stop := after } spots
      else readBlock context stop { state with text := c :: state.text } spots
    else
      let indented := state.indent.all (mark.column < ·)
      if indented && c == ' ' then readBlock context stop state spots
      else if indented && c == '\t' then
        .error (.during .blockScalar context.start .tabInBlock mark)
      else if isBreak c then
        readBlock context stop
          { state with
            more := c :: state.more, widest := max state.widest mark.column, stop := after }
          spots
      else
        let indent := state.indentFrom context mark.column
        if mark.column = indent then
          readBlock context stop (state.beginLine context c indent) spots
        else .ok (state.finish context rest)

/-- The block scalar that a rest begins with, in surroundings that are indented by some columns or
not at all. -/
def blockScalar (literal : Bool) (around : Option Nat) (rest : Rest) :
    Except Fault ScannedScalar := do
  let start := rest.mark
  let (header, rest) ← BlockHeader.read start (rest.drop 1)
  let rest := rest.dropBlanks.dropComment
  if !rest.isBreakOrEnd 0 then
    throw (.during .blockScalar start .trailingText rest.mark)
  let rest := rest.dropBreak
  let context : BlockContext :=
    { literal, chomping := header.chomping, least := (around.map (· + 1)).getD 0 |> max 1, start }
  let indent := header.increment.map (around.getD 0 + ·)
  readBlock context rest.stop { indent, stop := rest.mark } rest.spots

end EditorBridge.Yaml
