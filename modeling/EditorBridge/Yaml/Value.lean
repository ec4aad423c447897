import EditorBridge.Decimal.Nearest
import EditorBridge.Decimal.Shortest
import EditorBridge.Mismatch
import EditorBridge.Word
import EditorBridge.Yaml.Event

/-!
# Kinds of scalars

What a scalar stands for where no kind is asked of it: a plain one may be a number, a truth value or
nothing at all. A tag can ask for one of these kinds.
-/

namespace EditorBridge.Yaml

open Text (Bytes)

/-- Whether a text stands for nothing. -/
def isNothing (text : String) : Bool :=
  ["null", "Null", "NULL", "~"].contains text

/-- The truth value that a text stands for. -/
def truth? (text : String) : Option Bool :=
  if ["true", "True", "TRUE"].contains text then some true
  else if ["false", "False", "FALSE"].contains text then some false
  else none

/-- The value of a digit in a base of at most sixteen. -/
def digit? (base : Nat) (c : Char) : Option Nat :=
  (hexDigit? c).filter (· < base)

/-- The number that digits of a base stand for, at least one. -/
def numeral? (base : Nat) (digits : List Char) : Option Nat :=
  if digits.isEmpty then none
  else digits.foldlM (fun n c => (n * base + ·) <$> digit? base c) 0

/-- The letters that announce a base, behind a zero. -/
def baseOf? (c : Char) : Option Nat :=
  [('x', 16), ('o', 8), ('b', 2)].lookup c

/-- Whether a text consists of digits of which a superfluous first one is zero. -/
def isZeroPadded (text : List Char) : Bool :=
  let digits := match text with
    | '-' :: rest | '+' :: rest => rest
    | rest => rest
  1 < digits.length && digits.head? == some '0' && digits.all Decimal.isDigit

/-- The number of an unsigned numeral, in whatever base it announces. -/
def magnitude? (padded : Bool) : List Char → Option Nat
  | '0' :: c :: digits =>
    match baseOf? c with
    | some base => numeral? base digits
    | none => if padded then none else numeral? 10 ('0' :: c :: digits)
  | digits => numeral? 10 digits

/-- The integer that a text stands for. -/
def integer? (text : List Char) : Option Int :=
  let padded := isZeroPadded text
  match text with
  | '-' :: rest => (magnitude? padded rest).map fun n => -(n : Int)
  | '+' :: rest => (magnitude? padded rest).map fun n => (n : Int)
  | rest => (magnitude? padded rest).map fun n => (n : Int)

/-- The kind of an integer of at most 128 bits. -/
def integerKind? (value : Int) : Option Found :=
  if Word.fitsSigned 64 value || Word.fits 64 value then some (.integer value)
  else if Word.fitsSigned 128 value || Word.fits 128 value then some (.wideInteger value)
  else none

/-- The bits of the doubles that are not finite, by their names. -/
def namedDouble? (text : String) : Option UInt64 :=
  if [".inf", ".Inf", ".INF", "+.inf", "+.Inf", "+.INF"].contains text then
    some 0x7ff0000000000000
  else if ["-.inf", "-.Inf", "-.INF"].contains text then some 0xfff0000000000000
  else if [".nan", ".NaN", ".NAN"].contains text then some 0x7ff8000000000000
  else none

/-- The double that a text stands for. -/
def double? (text : String) : Option UInt64 :=
  (namedDouble? text).or (Decimal.double? text.toList)

/-- What a plain text stands for. -/
def plainKind (text : String) : Found :=
  if text.isEmpty || isNothing text then .unit
  else
    match truth? text with
    | some value => .bool value
    | none =>
      match (integer? text.toList).bind integerKind? with
      | some found => found
      | none =>
        match if isZeroPadded text.toList then none else double? text with
        | some bits => .float (Decimal.plainText bits)
        | none => .string text

/-- The address of a tag of the core kinds. -/
def coreTag (name : String) : Bytes :=
  Text.toBytes ("tag:yaml.org,2002:" ++ name)

/-- The mismatch of a scalar with what is expected. A tag of a core kind asks for that kind first,
and a local tag says nothing about a plain scalar. -/
def Scalar.mismatch (scalar : Scalar) (expected : String) : Mismatch :=
  let text := scalar.text
  let tagged (found : Option Found) (kind : String) : Mismatch :=
    match found with
    | some found => .kind found expected
    | none => .value (.string text) kind
  let plain := scalar.style == .plain
  match scalar.tag with
  | none => .kind (if plain then plainKind text else .string text) expected
  | some tag =>
    if tag = coreTag "bool" then tagged ((truth? text).map .bool) "a boolean"
    else if tag = coreTag "int" then
      tagged ((integer? text.toList).bind integerKind?) "an integer"
    else if tag = coreTag "float" then
      tagged ((double? text).map fun bits => .float (Decimal.plainText bits)) "a float"
    else if tag = coreTag "null" then tagged (if isNothing text then some .unit else none) "null"
    else if plain ∧ tag.head? = some 0x21 then .kind (plainKind text) expected
    else .kind (.string text) expected

end EditorBridge.Yaml
