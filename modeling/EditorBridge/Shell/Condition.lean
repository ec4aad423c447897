import EditorBridge.Shell.Format
import EditorBridge.Shell.State

/-!
# Conditions

The tests on texts, numbers and files that a script can make.
-/

namespace EditorBridge.Shell

open Text (Bytes)

namespace Condition

/-- Why a condition is no condition. -/
structure Fault where
  /-- The words for it. -/
  text : Bytes

/-- The number that an operand is. -/
def number (bytes : Bytes) : Except Fault Int :=
  let trimmed := Arithmetic.skipSpace (Format.chars bytes)
  let trimmed := (trimmed.reverse.dropWhile Char.isWhitespace).reverse
  let (value, numeric) := Format.numberOf (Text.Utf8.encode trimmed)
  if numeric && !trimmed.isEmpty then .ok value
  else .error ⟨Text.toBytes "Illegal number: " ++ bytes⟩

/-- A test of a file by a letter. -/
def ofFile (state : State) (letter : Char) (name : Bytes) : Bool :=
  match state.world.files.resolve state.world.current ⟨name⟩ with
  | .error _ => false
  | .ok (_, node) =>
    match letter, node with
    | 'd', .directory => true
    | 'd', _ => false
    | 'f', .directory => false
    | 'f', _ => true
    | 's', .file contents _ => !contents.isEmpty
    | 's', _ => true
    | 'x', .file _ executable => executable
    | 'L', _ | 'h', _ | 'p', _ | 'b', _ | 'c', _ | 'S', _ | 'u', _ | 'g', _ | 'k', _ => false
    | _, _ => true

/-- The letters of the tests with one operand. -/
def unaryLetters : List Char := "bcdefghknprstuwxzLSO".toList

/-- A test with one operand. -/
def unary? (state : State) (operator operand : Bytes) : Option Bool :=
  match Format.chars operator with
  | ['-', letter] =>
    if !unaryLetters.contains letter then none
    else some (match letter with
      | 'n' => !operand.isEmpty
      | 'z' => operand.isEmpty
      | 't' => false
      | letter => ofFile state letter operand)
  | _ => none

/-- A test with two operands. -/
def binary? (operator a b : Bytes) : Option (Except Fault Bool) :=
  let numbers (p : Int → Int → Bool) : Option (Except Fault Bool) :=
    some do return p (← number a) (← number b)
  match String.ofList (Format.chars operator) with
  | "=" | "==" => if operator.length = 1 then some (.ok (a == b)) else none
  | "!=" => some (.ok (a != b))
  | "<" => some (.ok (decide (a < b)))
  | ">" => some (.ok (decide (b < a)))
  | "-eq" => numbers (· == ·)
  | "-ne" => numbers (· != ·)
  | "-lt" => numbers (· < ·)
  | "-le" => numbers (· ≤ ·)
  | "-gt" => numbers (· > ·)
  | "-ge" => numbers (· ≥ ·)
  | _ => none

/-- A word as bytes. -/
def word (text : String) : Bytes := Text.toBytes text

mutual

/-- Conditions joined by `-o`. -/
def anyOf (fuel : Nat) (state : State) (words : List Bytes) : Except Fault (Bool × List Bytes) :=
  match fuel with
  | 0 => .error ⟨word "argument expected"⟩
  | fuel + 1 => do
    let (first, rest) ← allOf fuel state words
    match rest with
    | [] => return (first, [])
    | operator :: more =>
      if operator = word "-o" then
        let (second, rest) ← anyOf fuel state more
        return (first || second, rest)
      else return (first, rest)

/-- Conditions joined by `-a`. -/
def allOf (fuel : Nat) (state : State) (words : List Bytes) : Except Fault (Bool × List Bytes) :=
  match fuel with
  | 0 => .error ⟨word "argument expected"⟩
  | fuel + 1 => do
    let (first, rest) ← single fuel state words
    match rest with
    | [] => return (first, [])
    | operator :: more =>
      if operator = word "-a" then
        let (second, rest) ← allOf fuel state more
        return (first && second, rest)
      else return (first, rest)

/-- One condition at the beginning of some words, with the rest. -/
def single (fuel : Nat) (state : State) (words : List Bytes) :
    Except Fault (Bool × List Bytes) :=
  match fuel with
  | 0 => .error ⟨word "argument expected"⟩
  | fuel + 1 =>
    match words with
    | [] => .ok (false, [])
    | [a] => .ok (!a.isEmpty, [])
    | a :: operator :: rest =>
      let tested : Option (Except Fault (Bool × List Bytes)) := match rest with
        | b :: more => (binary? operator a b).map fun r => do return (← r, more)
        | [] => none
      match tested with
      | some result => result
      | none =>
        if a = word "!" then do
          let (value, rest) ← single fuel state (operator :: rest)
          return (!value, rest)
        else if a = word "(" then do
          let (value, after) ← anyOf fuel state (operator :: rest)
          match after with
          | closing :: more =>
            if closing = word ")" then return (value, more)
            else throw ⟨word "closing paren expected"⟩
          | [] => throw ⟨word "closing paren expected"⟩
        else
          match unary? state a operator with
          | some value => .ok (value, rest)
          | none => .ok (!a.isEmpty, operator :: rest)

end

/-- The truth of a whole condition. -/
def evaluate (state : State) (words : List Bytes) : Except Fault Bool := do
  let (value, rest) ← anyOf (4 * words.length + 4) state words
  match rest with
  | [] => return value
  | extra :: _ =>
    match words with
    | [a, _] | [a, _, _] => throw ⟨a ++ word ": unexpected operator"⟩
    | _ => throw ⟨extra ++ word ": unexpected operator"⟩

end Condition

end EditorBridge.Shell
