import EditorBridge.Decimal.Shortest
import EditorBridge.Json.Basic
import EditorBridge.Text.Quoted

/-!
# Values of the wrong kind

What is said of a value that is not of the kind its reader expects.
-/

namespace EditorBridge

/-- A value that was found where another kind was expected. -/
inductive Found where
  /-- A truth value. -/
  | bool (value : Bool)
  /-- An integer. -/
  | integer (value : Int)
  /-- An integer too large for 64 bits. -/
  | wideInteger (value : Int)
  /-- A double, by its text. -/
  | float (text : String)
  /-- A text. -/
  | string (value : String)
  /-- The empty value of JSON. -/
  | null
  /-- The empty value of YAML. -/
  | unit
  /-- A list. -/
  | sequence
  /-- A table of named values. -/
  | map
  /-- The name of a choice, in a value that names one. -/
  | choice
deriving DecidableEq, Repr

/-- The words for a value that was found. -/
def Found.describe : Found → String
  | .bool value => "boolean \x60" ++ (if value then "true" else "false") ++ "\x60"
  | .integer value => "integer \x60" ++ toString value ++ "\x60"
  | .wideInteger value =>
    "integer \x60" ++ toString value ++ "\x60 as " ++ (if value < 0 then "i128" else "u128")
  | .float text => "floating point \x60" ++ text ++ "\x60"
  | .string value => "string " ++ Text.quoted value
  | .null => "null"
  | .unit => "unit value"
  | .sequence => "sequence"
  | .map => "map"
  | .choice => "enum"

/-- What kind of value a JSON value is. -/
def Found.ofJson : Json → Found
  | .null => .null
  | .bool value => .bool value
  | .number (.int value) => .integer value
  | .number (.float bits) => .float (Decimal.compactText bits)
  | .string text => .string text
  | .array _ => .sequence
  | .object _ => .map

/-- Why a value does not have the form that its reader expects. -/
inductive Mismatch where
  /-- The value is of another kind. -/
  | kind (found : Found) (expected : String)
  /-- The value is of the right kind but outside the accepted ones. -/
  | value (found : Found) (expected : String)
  /-- A field is missing. -/
  | missing (field : String)
  /-- A field is given twice. -/
  | duplicate (field : String)
  /-- A list has the wrong number of items. -/
  | count (items : Nat) (expected : String)
  /-- None of the known names. -/
  | unknownName (name : String) (expected : String)
  /-- Anything else, in words. -/
  | other (text : String)
deriving DecidableEq, Repr

/-- The words for a mismatch. -/
def Mismatch.message : Mismatch → String
  | .kind found expected => "invalid type: " ++ found.describe ++ ", expected " ++ expected
  | .value found expected => "invalid value: " ++ found.describe ++ ", expected " ++ expected
  | .missing field => "missing field \x60" ++ field ++ "\x60"
  | .duplicate field => "duplicate field \x60" ++ field ++ "\x60"
  | .count items expected =>
    "invalid length " ++ toString items ++ ", expected " ++ expected
  | .unknownName name expected =>
    "unknown variant \x60" ++ name ++ "\x60, expected " ++ expected
  | .other text => text

end EditorBridge
