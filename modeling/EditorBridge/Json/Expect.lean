import EditorBridge.Mismatch

/-!
# Values of an expected kind

Readers for single JSON values, each of which says what it found instead.
-/

namespace EditorBridge.Json

/-- The value is not of the expected kind. -/
def unexpected {α : Type} (value : Json) (expected : String) : Except Mismatch α :=
  .error (.kind (.ofJson value) expected)

/-- The value as a truth value. -/
def expectBool : Json → Except Mismatch Bool
  | .bool value => .ok value
  | value => value.unexpected "a boolean"

/-- The value as a text. -/
def expectText : Json → Except Mismatch String
  | .string text => .ok text
  | value => value.unexpected "a string"

/-- The value as a list whose items are read one by one. -/
def expectList {α : Type} (item : Json → Except Mismatch α) : Json → Except Mismatch (List α)
  | .array items => items.mapM item
  | value => value.unexpected "a sequence"

/-- The value as a table of named values. -/
def expectFields : Json → Except Mismatch Fields
  | .object fields => .ok fields
  | value => value.unexpected "a map"

/-- The value as a map of its own, in which each name has one value. -/
def expectMap (value : Json) : Except Mismatch Fields :=
  Fields.ofEntries <$> value.expectFields

/-- A field that has a value of its own if it is absent. -/
def defaultedField {α : Type} (fields : Fields) (key : String) (default : α)
    (read : Json → Except Mismatch α) : Except Mismatch α :=
  match Fields.get? fields key with
  | none => .ok default
  | some value => read value

/-- A field that may be absent or null. -/
def optionalField {α : Type} (fields : Fields) (key : String)
    (read : Json → Except Mismatch α) : Except Mismatch (Option α) :=
  match Fields.get? fields key with
  | none | some .null => .ok none
  | some value => some <$> read value

end EditorBridge.Json
