import EditorBridge.Yaml.Scalar.Basic

/-!
# Plain scalars

A plain scalar is a run of words. It ends before a colon that ends a key, before a comment, before
a line that is not indented, and within brackets before their punctuation.
-/

namespace EditorBridge.Yaml

/-- What a plain scalar depends on. -/
structure PlainContext where
  /-- Whether it stands within brackets. -/
  inFlow : Bool
  /-- The least column its lines may begin in. -/
  indent : Nat
  /-- Where it begins. -/
  start : Mark

/-- A plain scalar that has been read in part. -/
structure PlainState where
  /-- Its text in reverse order. -/
  text : List Char := []
  /-- What follows its last word. -/
  gap : Gap := {}
  /-- Whether the last character was no part of a word. -/
  betweenWords : Bool := false
  /-- Where its last word ends. -/
  stop : Mark

namespace PlainState

/-- The scalar that has been read when nothing more belongs to it. -/
def finish (state : PlainState) (rest : Rest) : ScannedScalar where
  text := state.text.reverse
  stop := state.stop
  rest := rest
  endsLine := state.gap.overLine

/-- Whether a word that would begin here is no part of the scalar. -/
def endsBefore (context : PlainContext) (rest : Rest) : Bool :=
  (!context.inFlow && rest.mark.column < context.indent) || rest.isDocumentFence
    || rest.startsWith '#'

/-- Whether a character ends the scalar within a word. -/
def endsAt (context : PlainContext) (rest : Rest) (c : Char) : Bool :=
  (c == ':' && rest.isBlankOrEnd 1) || (context.inFlow && ",[]\x7b\x7d".toList.contains c)

/-- Whether a colon is followed by the punctuation of brackets. -/
def isStrayColon (context : PlainContext) (rest : Rest) (c : Char) : Bool :=
  context.inFlow && c == ':' && (rest.char? 1).any ",?[]\x7b\x7d".toList.contains

/-- The state after a character of a word, which ends at a mark. -/
def word (state : PlainState) (c : Char) (stop : Mark) : PlainState :=
  { text := c :: (state.gap.fold ++ state.text), betweenWords := false, stop }

end PlainState

/-- Read a plain scalar on from a state. -/
def readPlain (context : PlainContext) (stop : Mark) (state : PlainState) :
    List Spot → Except Fault ScannedScalar
  | [] => .ok (state.finish ⟨[], stop⟩)
  | ⟨c, mark⟩ :: spots =>
    let rest : Rest := ⟨⟨c, mark⟩ :: spots, stop⟩
    if isBlank c then
      if state.gap.overLine ∧ mark.column < context.indent ∧ c = '\t' then
        .error (.during .plainScalar context.start .tabInPlain mark)
      else
        readPlain context stop { state with gap := state.gap.blank c, betweenWords := true } spots
    else if isBreak c then
      readPlain context stop { state with gap := state.gap.lineEnd c, betweenWords := true } spots
    else if state.betweenWords && PlainState.endsBefore context rest then .ok (state.finish rest)
    else if PlainState.isStrayColon context rest c then
      .error (.during .plainScalar context.start .strayColon mark)
    else if PlainState.endsAt context rest c then .ok (state.finish rest)
    else readPlain context stop (state.word c (Rest.mark ⟨spots, stop⟩)) spots

/-- The plain scalar that a rest begins with. -/
def plainScalar (inFlow : Bool) (indent : Nat) (rest : Rest) : Except Fault ScannedScalar :=
  readPlain ⟨inFlow, indent, rest.mark⟩ rest.stop { stop := rest.mark } rest.spots

end EditorBridge.Yaml
