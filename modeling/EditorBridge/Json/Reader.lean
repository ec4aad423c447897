import EditorBridge.Json.Basic
import EditorBridge.Word

/-!
# Reading JSON text

The reader is a machine that takes one character at a time. Its state is what may come next and
the arrays and objects that are still open, so a text of any depth is read without recursion. Text
nested deeper than the limit is refused, as is everything outside the JSON grammar.
-/

namespace EditorBridge.Json

/-- How many arrays and objects may be open at once. -/
def depthLimit : Nat := 127

/-- An array or object that is still open. -/
inductive Frame where
  /-- The items of an array, the last one first. -/
  | array (items : List Json)
  /-- The fields of an object so far, and the key whose value is read. -/
  | object (fields : Fields) (key : String)

/-- Where a text that is being read stands inside an escape. -/
inductive Escape where
  /-- In no escape. -/
  | none
  /-- After the backslash. -/
  | begun
  /-- Inside the four digits of a code unit, with the value of those read. -/
  | unit (digits : Nat) (value : Nat)
deriving DecidableEq

/-- A text that is being read. -/
structure Literal where
  /-- The characters so far, the last one first. -/
  chars : List Char
  /-- The state of an escape. -/
  escape : Escape
  /-- A leading surrogate whose partner has to follow. -/
  leading : Option Nat

/-- What the reader is in the middle of. -/
inductive Phase where
  /-- A value has to come; an array that was just opened may also end. -/
  | value (mayEnd : Bool)
  /-- A key has to come; an object that was just opened may also end. -/
  | key (mayEnd : Bool) (fields : Fields)
  /-- The colon after a key has to come. -/
  | colon (fields : Fields) (key : String)
  /-- Inside a key. -/
  | keyText (fields : Fields) (literal : Literal)
  /-- Inside a text value. -/
  | text (literal : Literal)
  /-- Inside a number, with its characters in reverse. -/
  | number (chars : List Char)
  /-- Inside one of the words, with what is left of it. -/
  | word (rest : List Char) (value : Json)
  /-- After a value that stands inside the innermost frame. -/
  | after (value : Json)

/-- The state of the reader. -/
structure Reader where
  /-- What it is in the middle of. -/
  phase : Phase
  /-- The open arrays and objects, the innermost first. -/
  frames : List Frame

/-- The characters that JSON allows between its tokens. -/
def isSpace (c : Char) : Bool :=
  c == ' ' || c == '\n' || c == '\t' || c == '\r'

/-- The characters that numbers are written with. -/
def isNumberChar (c : Char) : Bool :=
  c.isDigit || c == '-' || c == '+' || c == '.' || c == 'e' || c == 'E'

/-- The value of a hexadecimal digit. -/
def hexValue? (c : Char) : Option Nat :=
  if c.isDigit then some (c.toNat - '0'.toNat)
  else if 'a' ≤ c ∧ c ≤ 'f' then some (c.toNat - 'a'.toNat + 10)
  else if 'A' ≤ c ∧ c ≤ 'F' then some (c.toNat - 'A'.toNat + 10)
  else none

/-! ### Numbers -/

/-- The largest integer that fits in 64 bits. -/
def maxInteger : Nat := Word.count 64 - 1

/-- A number that is being read: the significant digits that fit in 64 bits, and the power of ten
by which they are still to be multiplied. -/
structure Significand where
  /-- The digits taken so far. -/
  value : Nat
  /-- The power of ten. -/
  exponent : Int
  /-- Whether a digit did not fit; from then on the digits of this part are only counted. -/
  full : Bool

/-- Take a digit before the point. One that does not fit raises the power of ten. -/
def Significand.integerDigit (s : Significand) (c : Char) : Significand :=
  let next := s.value * 10 + (c.toNat - '0'.toNat)
  if s.full || maxInteger < next then { s with exponent := s.exponent + 1, full := true }
  else { s with value := next }

/-- Take a digit after the point. One that does not fit is dropped with all after it. -/
def Significand.fractionDigit (s : Significand) (c : Char) : Significand :=
  let next := s.value * 10 + (c.toNat - '0'.toNat)
  if s.full || maxInteger < next then { s with full := true }
  else { s with value := next, exponent := s.exponent - 1 }

/-- Multiply a double by a power of ten, or fail where the result is too large. -/
def scaleByTen (f : Float) (exponent : Int) : Option Float :=
  if exponent.natAbs ≤ 308 then
    let power := Float.ofScientific 1 false exponent.natAbs
    if exponent < 0 then some (f / power)
    else
      let product := f * power
      if product.isInf then none else some product
  else if f == 0 then some f
  else if 0 ≤ exponent then none
  else scaleByTen (f / 1e308) (exponent + 308)
termination_by exponent.natAbs

/-- The double with a sign, digits and a power of ten. -/
def floatOf? (negative : Bool) (value : Nat) (exponent : Int) : Option Number :=
  (scaleByTen value.toUInt64.toFloat exponent).map fun f =>
    .float (if negative then -f else f).toBits

/-- The exponent part of a number: nothing, or a mark, an optional sign and digits. -/
def exponent? : List Char → Option Int
  | [] => some 0
  | mark :: rest =>
    let (negative, digits) := match rest with
      | '-' :: digits => (true, digits)
      | '+' :: digits => (false, digits)
      | digits => (false, digits)
    if (mark == 'e' || mark == 'E') && !digits.isEmpty && digits.all Char.isDigit then
      let n : Int := digits.foldl (fun n c => n * 10 + (c.toNat - '0'.toNat)) 0
      some (if negative then -n else n)
    else none

/-- The number with the given sign, digits before the point and remaining characters. -/
def unsigned? (negative : Bool) (whole rest : List Char) : Option Number := do
  guard (!whole.isEmpty && (whole.head? != some '0' || whole.length == 1))
  let integer := whole.foldl Significand.integerDigit ⟨0, 0, false⟩
  match rest with
  | [] =>
    if integer.full then floatOf? negative integer.value integer.exponent
    else if !negative then some (.int integer.value)
    else if integer.value = 0 ∨ Word.count 63 < integer.value then floatOf? true integer.value 0
    else some (.int (-integer.value))
  | '.' :: rest =>
    let fraction := rest.takeWhile Char.isDigit
    guard !fraction.isEmpty
    let significand := fraction.foldl Significand.fractionDigit { integer with full := false }
    let exponent ← exponent? (rest.dropWhile Char.isDigit)
    floatOf? negative significand.value (significand.exponent + exponent)
  | rest =>
    let exponent ← exponent? rest
    floatOf? negative integer.value (integer.exponent + exponent)

/-- The number that a run of characters is, if it is one. -/
def number? (chars : List Char) : Option Number :=
  let (negative, rest) := match chars with
    | '-' :: rest => (true, rest)
    | rest => (false, rest)
  unsigned? negative (rest.takeWhile Char.isDigit) (rest.dropWhile Char.isDigit)

/-! ### Texts -/

/-- Whether a code unit begins a surrogate pair. -/
def isLeading (unit : Nat) : Bool :=
  0xd800 ≤ unit && unit ≤ 0xdbff

/-- Whether a code unit ends a surrogate pair. -/
def isTrailing (unit : Nat) : Bool :=
  0xdc00 ≤ unit && unit ≤ 0xdfff

/-- A text from which nothing has been read. -/
def Literal.empty : Literal := ⟨[], .none, none⟩

/-- Take a code unit given by its digits. Surrogates have to come in pairs. -/
def Literal.unit? (literal : Literal) (unit : Nat) : Option Literal :=
  match literal.leading with
  | none =>
    if isLeading unit then some { literal with escape := .none, leading := some unit }
    else if isTrailing unit then none
    else some { literal with chars := Char.ofNat unit :: literal.chars, escape := .none }
  | some leading =>
    if isTrailing unit then
      let code := 0x10000 + (leading - 0xd800) * 0x400 + (unit - 0xdc00)
      some ⟨Char.ofNat code :: literal.chars, .none, none⟩
    else none

/-- Take a character that stands for itself or for a simple escape. -/
def Literal.push? (literal : Literal) (c : Char) : Option Literal :=
  match literal.leading with
  | none => some ⟨c :: literal.chars, .none, none⟩
  | some _ => none

/-- Take the character after a backslash. -/
def Literal.escaped? (literal : Literal) (c : Char) : Option Literal :=
  match c with
  | '"' => literal.push? '"'
  | '\\' => literal.push? '\\'
  | '/' => literal.push? '/'
  | 'b' => literal.push? '\x08'
  | 'f' => literal.push? '\x0c'
  | 'n' => literal.push? '\n'
  | 'r' => literal.push? '\r'
  | 't' => literal.push? '\t'
  | 'u' => some { literal with escape := .unit 0 0 }
  | _ => none

/-- Take one character of a text: the text goes on, or it ends. -/
def Literal.step? (literal : Literal) (c : Char) : Option (Literal ⊕ String) :=
  match literal.escape with
  | .begun => (literal.escaped? c).map .inl
  | .unit digits value => do
    let value := value * 16 + (← hexValue? c)
    if digits = 3 then (literal.unit? value).map .inl
    else some (.inl { literal with escape := .unit (digits + 1) value })
  | .none =>
    if c = '\\' then some (.inl { literal with escape := .begun })
    else if literal.leading.isSome || c.toNat < 32 then none
    else if c = '"' then some (.inr (String.ofList literal.chars.reverse))
    else (literal.push? c).map .inl

/-! ### Values -/

/-- The first character of a value. -/
def Reader.begin? (frames : List Frame) (c : Char) : Option Reader :=
  match c with
  | '"' => some ⟨.text .empty, frames⟩
  | '[' => if frames.length < depthLimit then some ⟨.value true, .array [] :: frames⟩ else none
  | '\x7b' => if frames.length < depthLimit then some ⟨.key true [], frames⟩ else none
  | 'n' => some ⟨.word "ull".toList .null, frames⟩
  | 't' => some ⟨.word "rue".toList (.bool true), frames⟩
  | 'f' => some ⟨.word "alse".toList (.bool false), frames⟩
  | c => if c.isDigit || c == '-' then some ⟨.number [c], frames⟩ else none

/-- A character after a value: the innermost array or object goes on or ends. -/
def Reader.continue? (value : Json) (frames : List Frame) (c : Char) : Option Reader :=
  if isSpace c then some ⟨.after value, frames⟩
  else
    match frames, c with
    | .array items :: frames, ',' => some ⟨.value false, .array (value :: items) :: frames⟩
    | .array items :: frames, ']' => some ⟨.after (.array (value :: items).reverse), frames⟩
    | .object fields key :: frames, ',' => some ⟨.key false (Fields.set key value fields), frames⟩
    | .object fields key :: frames, '\x7d' =>
      some ⟨.after (.object (Fields.set key value fields)), frames⟩
    | _, _ => none

/-- Take one character. -/
def Reader.step? (reader : Reader) (c : Char) : Option Reader :=
  let frames := reader.frames
  match reader.phase with
  | .value mayEnd =>
    if isSpace c then some reader
    else
      match mayEnd, frames, c with
      | true, .array [] :: outer, ']' => some ⟨.after (.array []), outer⟩
      | _, _, _ => Reader.begin? frames c
  | .key mayEnd fields =>
    if isSpace c then some reader
    else if c = '"' then some ⟨.keyText fields .empty, frames⟩
    else if mayEnd ∧ c = '\x7d' then some ⟨.after (.object []), frames⟩
    else none
  | .keyText fields literal => do
    match ← literal.step? c with
    | .inl literal => some ⟨.keyText fields literal, frames⟩
    | .inr key => some ⟨.colon fields key, frames⟩
  | .colon fields key =>
    if isSpace c then some reader
    else if c = ':' then some ⟨.value false, .object fields key :: frames⟩
    else none
  | .text literal => do
    match ← literal.step? c with
    | .inl literal => some ⟨.text literal, frames⟩
    | .inr text => some ⟨.after (.string text), frames⟩
  | .number chars =>
    if isNumberChar c then some ⟨.number (c :: chars), frames⟩
    else do Reader.continue? (.number (← number? chars.reverse)) frames c
  | .word rest value =>
    match rest with
    | [] => none
    | [last] => if c = last then some ⟨.after value, frames⟩ else none
    | next :: rest => if c = next then some ⟨.word rest value, frames⟩ else none
  | .after value => Reader.continue? value frames c

/-- The value that was read, once the text has ended. -/
def Reader.finish? (reader : Reader) : Option Json :=
  match reader.frames, reader.phase with
  | [], .after value => some value
  | [], .number chars => (number? chars.reverse).map .number
  | _, _ => none

/-- The value that a text is, if it is JSON. -/
def read? (text : String) : Option Json :=
  (text.toList.foldlM Reader.step? ⟨.value false, []⟩).bind Reader.finish?

end EditorBridge.Json
