import EditorBridge.Yaml.Fault

/-!
# Scalars

A scalar is a text in one of five styles. Where a scalar that is not a block runs over several
lines, the blanks and breaks between its words are folded: one break becomes a space, and of several
the first one is dropped.
-/

namespace EditorBridge.Yaml

/-- How a scalar is written. -/
inductive Style where
  /-- As it is. -/
  | plain
  /-- In single quotes. -/
  | single
  /-- In double quotes. -/
  | double
  /-- As a block whose lines are kept. -/
  | literal
  /-- As a block whose lines are joined. -/
  | folded
deriving DecidableEq, Repr

/-- The blanks and breaks since the last word of a scalar. -/
structure Gap where
  /-- The blanks, up to the first break, in reverse order. -/
  blanks : List Char := []
  /-- The first break. -/
  first : Option Char := none
  /-- The breaks after the first, in reverse order. -/
  more : List Char := []
  /-- Whether the gap goes over the end of a line. -/
  overLine : Bool := false
deriving DecidableEq, Repr

namespace Gap

/-- The gap with a blank more. Blanks at the beginning of a line are dropped. -/
def blank (gap : Gap) (c : Char) : Gap :=
  if gap.overLine then gap else { gap with blanks := c :: gap.blanks }

/-- The gap with a break more. Blanks before a break are dropped. -/
def lineEnd (gap : Gap) (c : Char) : Gap :=
  if gap.overLine then { gap with more := c :: gap.more }
  else { gap with blanks := [], first := some c, overLine := true }

/-- What a gap adds to a scalar, in reverse order. -/
def fold (gap : Gap) : List Char :=
  if gap.overLine then
    match gap.first with
    | some '\n' => if gap.more.isEmpty then [' '] else gap.more
    | some c => gap.more ++ [c]
    | none => gap.more
  else gap.blanks

end Gap

/-- A scalar that was read. -/
structure ScannedScalar where
  /-- Its text. -/
  text : List Char
  /-- Where it ends. -/
  stop : Mark
  /-- What follows. -/
  rest : Rest
  /-- Whether it was followed by the end of a line that is part of what was read. -/
  endsLine : Bool := false

end EditorBridge.Yaml
