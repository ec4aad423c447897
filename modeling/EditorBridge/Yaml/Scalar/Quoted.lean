import EditorBridge.Yaml.Scalar.Basic

/-!
# Scalars in quotes

Between single quotes a quote is written twice. Between double quotes a backslash begins an escape:
for a single character, for a character by its code, or for a break that is left out.
-/

namespace EditorBridge.Yaml

/-- The character for which a letter stands after a backslash. -/
def namedEscape? (c : Char) : Option Char :=
  [('0', '\x00'), ('a', '\x07'), ('b', '\x08'), ('t', '\t'), ('\t', '\t'), ('n', '\n'),
    ('v', '\x0b'), ('f', '\x0c'), ('r', '\r'), ('e', '\x1b'), (' ', ' '), ('"', '"'), ('/', '/'),
    ('\\', '\\'), ('N', '\u0085'), ('_', '\u00a0'), ('L', '\u2028'), ('P', '\u2029')].lookup c

/-- How many hexadecimal digits follow a letter after a backslash. -/
def codeLength? (c : Char) : Option Nat :=
  [('x', 2), ('u', 4), ('U', 8)].lookup c

/-- The value of a hexadecimal digit. -/
def hexDigit? (c : Char) : Option Nat :=
  if '0' ≤ c ∧ c ≤ '9' then some (c.toNat - '0'.toNat)
  else if 'a' ≤ c ∧ c ≤ 'f' then some (c.toNat - 'a'.toNat + 10)
  else if 'A' ≤ c ∧ c ≤ 'F' then some (c.toNat - 'A'.toNat + 10)
  else none

/-- The character of a code, if it is one. -/
def charOfCode? (code : Nat) : Option Char :=
  if code < 0xd800 ∨ (0xdfff < code ∧ code < 0x110000) then some (Char.ofNat code) else none

/-- What the next character of a quoted scalar belongs to. -/
inductive QuotedPhase where
  /-- A word, or the blanks between words. -/
  | text
  /-- The character behind a backslash that stands at the mark. -/
  | escape (backslash : Mark)
  /-- A character's code, of which digits are still missing and whose first one stands at the
  mark. -/
  | code (missing : Nat) (value : Nat) (first : Mark)
  /-- The character behind a quote that may be the first of two. -/
  | quote
deriving Repr

/-- A quoted scalar that has been read in part. -/
structure QuotedState where
  /-- Its text in reverse order. -/
  text : List Char := []
  /-- What follows its last word. -/
  gap : Gap := {}
  /-- Whether the last character was no part of a word. -/
  betweenWords : Bool := false
  /-- What the next character belongs to. -/
  phase : QuotedPhase := .text

namespace QuotedState

/-- The state after the blanks before a word. -/
def joined (state : QuotedState) : QuotedState :=
  { text := state.gap.fold ++ state.text, betweenWords := false }

/-- The state after a character of a word. -/
def word (state : QuotedState) (c : Char) : QuotedState :=
  { state.joined with text := c :: state.joined.text }

/-- The state after a break that is left out. -/
def skipBreak (state : QuotedState) : QuotedState :=
  { text := state.text, gap := { overLine := true }, betweenWords := true }

/-- The scalar when its closing quote has been read. -/
def finish (state : QuotedState) (rest : Rest) : ScannedScalar where
  text := state.joined.text.reverse
  stop := rest.mark
  rest := rest

/-- The fault of a character code that goes wrong. -/
def codeFault (start : Mark) (problem : Problem) (first : Mark) : Fault :=
  .during .quotedEscape start problem first

/-- The state after a digit of a character's code. -/
def digit (state : QuotedState) (start : Mark) (missing value : Nat) (first : Mark) (c : Char) :
    Except Fault QuotedState :=
  match hexDigit? c with
  | none => .error (codeFault start .badHexadecimal first)
  | some d =>
    let value := value * 16 + d
    if 1 < missing then .ok { state with phase := .code (missing - 1) value first }
    else
      match charOfCode? value with
      | some c => .ok (state.word c)
      | none => .error (codeFault start .badCharacterCode first)

/-- The state after the character behind a backslash. -/
def escaped (state : QuotedState) (start backslash : Mark) (c : Char) (after : Mark) :
    Except Fault QuotedState :=
  if isBreak c then .ok state.skipBreak
  else
    match namedEscape? c, codeLength? c with
    | some c, _ => .ok (state.word c)
    | none, some digits => .ok { state with phase := .code digits 0 after }
    | none, none => .error (codeFault start .unknownEscape backslash)

end QuotedState

/-- Read a quoted scalar on from a state. -/
def readQuoted (double : Bool) (start stop : Mark) (state : QuotedState) :
    List Spot → Except Fault ScannedScalar
  | [] =>
    match state.phase with
    | .text => .error (.during .quotedScalar start .endInQuotes stop)
    | .quote => .ok (state.finish ⟨[], stop⟩)
    | .escape backslash => .error (.during .quotedEscape start .unknownEscape backslash)
    | .code _ _ first => .error (.during .quotedEscape start .badHexadecimal first)
  | ⟨c, mark⟩ :: spots =>
    let rest : Rest := ⟨⟨c, mark⟩ :: spots, stop⟩
    let after := Rest.mark ⟨spots, stop⟩
    match state.phase with
    | .quote =>
      if c = '\'' then readQuoted double start stop ({ state with phase := .text }.word c) spots
      else .ok (state.finish rest)
    | .escape backslash => do
      readQuoted double start stop (← state.escaped start backslash c after) spots
    | .code missing value first => do
      readQuoted double start stop (← state.digit start missing value first c) spots
    | .text =>
      if isBlank c then
        readQuoted double start stop { state with gap := state.gap.blank c, betweenWords := true }
          spots
      else if isBreak c then
        readQuoted double start stop { state with gap := state.gap.lineEnd c, betweenWords := true }
          spots
      else if state.betweenWords && rest.isDocumentFence then
        .error (.during .quotedScalar start .fenceInQuotes mark)
      else if double then
        if c = '"' then .ok (state.finish ⟨spots, stop⟩)
        else if c = '\\' then
          readQuoted double start stop { state.joined with phase := .escape mark } spots
        else readQuoted double start stop (state.word c) spots
      else if c = '\'' then
        readQuoted double start stop { state.joined with phase := .quote } spots
      else readQuoted double start stop (state.word c) spots

/-- The quoted scalar that a rest begins with. -/
def quotedScalar (double : Bool) (rest : Rest) : Except Fault ScannedScalar :=
  readQuoted double rest.mark rest.stop {} (rest.drop 1).spots

end EditorBridge.Yaml
