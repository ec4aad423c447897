import EditorBridge.Shell.Syntax

/-!
# Shell patterns

A pattern matches bytes one by one, where a star stands for any run, a question mark for any byte
and brackets for a set of bytes. Quoted bytes stand for themselves.
-/

namespace EditorBridge.Shell

open Text (Bytes)

/-- A byte of an expanded word. -/
structure Cell where
  /-- The byte. -/
  byte : UInt8
  /-- Whether it was quoted. -/
  quoted : Bool
deriving DecidableEq, Repr

/-- An element of a pattern. -/
inductive Element where
  /-- A byte that stands for itself. -/
  | one (byte : UInt8)
  /-- Any byte. -/
  | any
  /-- Any run of bytes. -/
  | run
  /-- A byte inside or outside of some ranges. -/
  | set (negated : Bool) (ranges : List (UInt8 × UInt8))
deriving DecidableEq, Repr

namespace Element

/-- The ranges of a bracket expression whose opening has been read, and what follows it. -/
def ranges? (first : Bool) (found : List (UInt8 × UInt8)) :
    List Cell → Option (List (UInt8 × UInt8) × List Cell)
  | [] => none
  | ⟨0x5d, false⟩ :: rest =>
    if first then ranges? false ((0x5d, 0x5d) :: found) rest else some (found, rest)
  | ⟨low, _⟩ :: ⟨0x2d, false⟩ :: ⟨high, q⟩ :: rest =>
    if high = 0x5d ∧ !q then
      some ((0x2d, 0x2d) :: (low, low) :: found, rest)
    else ranges? false ((low, high) :: found) rest
  | ⟨b, _⟩ :: rest => ranges? false ((b, b) :: found) rest

/-- The elements of a pattern. -/
def ofCells (fuel : Nat) (cells : List Cell) : List Element :=
  match fuel, cells with
  | 0, _ | _, [] => []
  | fuel + 1, ⟨b, quoted⟩ :: rest =>
    if quoted then .one b :: ofCells fuel rest
    else if b = 0x2a then .run :: ofCells fuel rest
    else if b = 0x3f then .any :: ofCells fuel rest
    else if b = 0x5b then
      let (negated, inside) := match rest with
        | ⟨0x21, false⟩ :: inside => (true, inside)
        | inside => (false, inside)
      match ranges? true [] inside with
      | some (ranges, after) => .set negated ranges :: ofCells fuel after
      | none => .one b :: ofCells fuel rest
    else .one b :: ofCells fuel rest

/-- Whether a pattern matches all of some bytes. -/
def isMatch : List Element → Bytes → Bool
  | [], bytes => bytes.isEmpty
  | .run :: pattern, [] => isMatch pattern []
  | .run :: pattern, b :: bytes => isMatch pattern (b :: bytes) || isMatch (.run :: pattern) bytes
  | _ :: _, [] => false
  | .one c :: pattern, b :: bytes => c == b && isMatch pattern bytes
  | .any :: pattern, _ :: bytes => isMatch pattern bytes
  | .set negated ranges :: pattern, b :: bytes =>
    (ranges.any fun range => range.1 ≤ b && b ≤ range.2) != negated && isMatch pattern bytes
termination_by pattern bytes => pattern.length + bytes.length

end Element

/-- The pattern that an expanded word is. -/
def patternOf (cells : List Cell) : List Element :=
  Element.ofCells cells.length cells

/-- Whether an expanded word holds a character of patterns. -/
def hasPattern (cells : List Cell) : Bool :=
  cells.any fun cell => !cell.quoted && [0x2a, 0x3f, 0x5b].contains cell.byte

/-- A value without the shortest or longest match of a pattern at one of its ends. -/
def stripMatch (pattern : List Element) (atEnd longest : Bool) (value : Bytes) : Bytes :=
  let cuts := List.range (value.length + 1)
  let cuts := if atEnd != longest then cuts.reverse else cuts
  let matched (cut : Nat) : Bool :=
    Element.isMatch pattern (if atEnd then value.drop cut else value.take cut)
  match cuts.find? matched with
  | some cut => if atEnd then value.take cut else value.drop cut
  | none => value

/-- The names in a directory that a pattern matches, in order. Hidden names match only a pattern
that begins with a dot of its own. -/
def matchingNames (pattern : List Element) (names : List Bytes) : List Bytes :=
  let visible (name : Bytes) : Bool :=
    name.head? != some 0x2e || pattern.head? == some (.one 0x2e)
  (names.filter fun name => visible name && Element.isMatch pattern name).mergeSort
    fun a b => decide (a ≤ b)

end EditorBridge.Shell
