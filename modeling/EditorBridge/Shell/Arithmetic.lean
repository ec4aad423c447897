import EditorBridge.Shell.Syntax
import EditorBridge.Word

/-!
# Arithmetic of the shell

Integer expressions over the words of the machine, read by precedence. The value of a name is the
number that its variable holds.
-/

namespace EditorBridge.Shell

open Text (Bytes)

namespace Arithmetic

/-- The operators by binding strength, the loosest first. -/
def levels : List (List String) :=
  [["||"], ["&&"], ["|"], ["^"], ["&"], ["==", "!="], ["<=", ">=", "<", ">"], ["<<", ">>"],
    ["+", "-"], ["*", "/", "%"]]

/-- Operators that begin with another one, which is then not meant. -/
def longer (operator : String) : List String :=
  match operator with
  | "|" => ["||"]
  | "&" => ["&&"]
  | "<" => ["<<"]
  | ">" => [">>"]
  | _ => []

/-- The truth of a number. -/
def truth (b : Bool) : Int := if b then 1 else 0

/-- A result cut to a signed word of 64 bits. -/
def wrap (n : Int) : Int := n.bmod (Word.count 64)

/-- The value of an operator; a division by zero has none. -/
def combine? (operator : String) (a b : Int) : Option Int :=
  match operator with
  | "||" => some (truth (a ≠ 0 || b ≠ 0))
  | "&&" => some (truth (a ≠ 0 && b ≠ 0))
  | "|" => some (wrap ((wrap a).toInt64 ||| b.toInt64).toInt)
  | "^" => some (wrap (a.toInt64 ^^^ b.toInt64).toInt)
  | "&" => some (wrap (a.toInt64 &&& b.toInt64).toInt)
  | "==" => some (truth (a = b))
  | "!=" => some (truth (a ≠ b))
  | "<=" => some (truth (a ≤ b))
  | ">=" => some (truth (b ≤ a))
  | "<" => some (truth (a < b))
  | ">" => some (truth (b < a))
  | "<<" => some (wrap (a * Word.count (b.emod 64).toNat))
  | ">>" => some (a.fdiv (Word.count (b.emod 64).toNat))
  | "+" => some (wrap (a + b))
  | "-" => some (wrap (a - b))
  | "*" => some (wrap (a * b))
  | "/" => if b = 0 then none else some (wrap (a.tdiv b))
  | "%" => if b = 0 then none else some (wrap (a.tmod b))
  | _ => none

/-- The characters without blanks at their beginning. -/
def skipSpace (cs : List Char) : List Char := cs.dropWhile Char.isWhitespace

/-- The number that a run of digits is in a base. -/
def digitsValue (base : Nat) (digits : List Char) : Int :=
  digits.foldl
    (fun n c => n * base + (if c.isDigit then c.toNat - 48 else c.toLower.toNat - 87)) 0

/-- The number that begins a text, with the rest: decimal, octal after `0`, hexadecimal after
`0x`. -/
def number? (cs : List Char) : Option (Int × List Char) :=
  let digits := cs.takeWhile Char.isAlphanum
  match digits with
  | '0' :: x :: rest =>
    if x = 'x' ∨ x = 'X' then some (wrap (digitsValue 16 rest), cs.drop digits.length)
    else some (wrap (digitsValue 8 (x :: rest)), cs.drop digits.length)
  | d :: _ => if d.isDigit then some (wrap (digitsValue 10 digits), cs.drop digits.length) else none
  | [] => none

/-- The value of a text that a variable holds. -/
def ofText (text : String) : Int :=
  match skipSpace text.toList with
  | '-' :: rest => -((number? rest).map (·.1)).getD 0
  | '+' :: rest => ((number? rest).map (·.1)).getD 0
  | rest => ((number? rest).map (·.1)).getD 0

mutual

/-- A number, a name, a bracketed expression, or one with a sign. -/
def primary (fuel : Nat) (lookup : String → Option String) (cs : List Char) :
    Option (Int × List Char) :=
  match fuel with
  | 0 => none
  | fuel + 1 =>
    match skipSpace cs with
    | '(' :: rest =>
      match binary fuel lookup levels rest with
      | some (value, rest) =>
        match skipSpace rest with
        | ')' :: rest => some (value, rest)
        | _ => none
      | none => none
    | '-' :: rest => (primary fuel lookup rest).map fun (v, rest) => (wrap (-v), rest)
    | '+' :: rest => primary fuel lookup rest
    | '!' :: rest => (primary fuel lookup rest).map fun (v, rest) => (truth (v = 0), rest)
    | '~' :: rest => (primary fuel lookup rest).map fun (v, rest) => (-v - 1, rest)
    | c :: rest =>
      if c.isDigit then number? (c :: rest)
      else if c.isAlpha || c == '_' then
        let name := (c :: rest).takeWhile fun c => c.isAlphanum || c == '_'
        some (ofText ((lookup (String.ofList name)).getD ""), (c :: rest).drop name.length)
      else none
    | [] => none

/-- An expression of the given levels. -/
def binary (fuel : Nat) (lookup : String → Option String) (operators : List (List String))
    (cs : List Char) : Option (Int × List Char) :=
  match fuel with
  | 0 => none
  | fuel + 1 =>
    match operators with
    | [] => primary fuel lookup cs
    | here :: tighter =>
      match binary fuel lookup tighter cs with
      | some (value, rest) => continued fuel lookup here tighter value rest
      | none => none

/-- Operators of one level after a first operand. -/
def continued (fuel : Nat) (lookup : String → Option String) (here : List String)
    (tighter : List (List String)) (value : Int) (cs : List Char) : Option (Int × List Char) :=
  match fuel with
  | 0 => none
  | fuel + 1 =>
    let rest := skipSpace cs
    let starts (operator : String) : Bool := operator.toList.isPrefixOf rest
    match here.find? fun operator => starts operator && !(longer operator).any starts with
    | none => some (value, rest)
    | some operator =>
      match binary fuel lookup tighter (rest.drop operator.length) with
      | some (second, rest) =>
        match combine? operator value second with
        | some value => continued fuel lookup here tighter value rest
        | none => none
      | none => none

end

/-- Why an expression has no value. -/
def complaint (fault text : String) : String :=
  "arithmetic expression: " ++ fault ++ ": \"" ++ text ++ "\""

/-- Whether an operator that divides is followed by a zero. -/
def dividesByZero : List Char → Bool
  | [] => false
  | c :: rest =>
    ((c = '/' ∨ c = '%') && (number? (skipSpace rest)).any (·.1 = 0)) || dividesByZero rest

/-- The value of an expression. -/
def evaluate (lookup : String → Option String) (text : String) : Except String Int :=
  let cs := text.toList
  if (skipSpace cs).isEmpty then .ok 0
  else
    match binary (40 * cs.length + 40) lookup levels cs with
    | some (value, rest) =>
      if (skipSpace rest).isEmpty then .ok value
      else .error (complaint "expecting EOF" text)
    | none =>
      .error (complaint (if dividesByZero cs then "division by zero" else "expecting primary") text)

end Arithmetic

end EditorBridge.Shell
