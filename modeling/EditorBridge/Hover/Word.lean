import EditorBridge.Text.Alphanumeric
import EditorBridge.Text.Lines

/-!
# The word under a cursor

A word is a run of word characters, together with a `#` directly before it. A cursor selects the
word it stands on, on the `#` of a directive, or else the word that ends right before it.
-/

namespace EditorBridge.Hover

/-- A place in a text: line and column, both counted from one. -/
structure Position where
  /-- The line. -/
  line : UInt32
  /-- The column, in characters. -/
  column : UInt32
deriving DecidableEq, Repr

/-- The part of a line that a word takes. -/
structure WordRange where
  /-- The line, counted from one. -/
  line : UInt32
  /-- The column of the first character. -/
  startCol : UInt32
  /-- The column after the last character. -/
  endCol : UInt32
deriving DecidableEq, Repr

/-- Letters, numbers and the underscore make up words. -/
def isWordChar (c : Char) : Bool :=
  Text.isAlphanumeric c || c == '_'

/-- Whether there is a word character at an index. -/
def wordCharAt (chars : List Char) (i : Nat) : Bool :=
  chars[i]?.any isWordChar

/-- The index of a word character that belongs to the word a cursor at index `i` selects. -/
def anchor? (chars : List Char) (i : Nat) : Option Nat :=
  if chars[i]? = some '#' ∧ wordCharAt chars (i + 1) then some (i + 1)
  else if wordCharAt chars i then some i
  else if 0 < i ∧ wordCharAt chars (i - 1) then some (i - 1)
  else none

/-- The half-open span of the word around the word character at index `i`. -/
def spanAround (chars : List Char) (i : Nat) : Nat × Nat :=
  let start := i - ((chars.take i).reverse.takeWhile isWordChar).length
  let stop := i + ((chars.drop i).takeWhile isWordChar).length
  if 0 < start ∧ chars[start - 1]? = some '#' then (start - 1, stop) else (start, stop)

/-- The span of the word that a cursor at index `i` of a line selects. -/
def span? (chars : List Char) (i : Nat) : Option (Nat × Nat) :=
  (anchor? chars i).map (spanAround chars)

/-- The characters of a half-open span. -/
def slice (chars : List Char) (span : Nat × Nat) : List Char :=
  (chars.drop span.1).take (span.2 - span.1)

/-- The word at a position and the range it takes. -/
def wordAt? (source : String) (position : Position) : Option (String × WordRange) :=
  if position.line = 0 ∨ position.column = 0 then none
  else do
    let chars ← (Text.lines source.toList)[position.line.toNat - 1]?
    let span ← span? chars (position.column.toNat - 1)
    return (String.ofList (slice chars span),
      ⟨position.line, span.1.toUInt32 + 1, span.2.toUInt32 + 1⟩)

end EditorBridge.Hover
