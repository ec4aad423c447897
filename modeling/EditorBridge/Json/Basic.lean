/-!
# JSON values

The values that settings, messages and answers are made of. An object is a list of fields; a value
that was read has its fields sorted by key, each key once.
-/

namespace EditorBridge

/-- A number: an integer of at most 64 bits, or a double by its bit pattern. -/
inductive Number where
  /-- An integer. -/
  | int (value : Int)
  /-- A double that is finite. -/
  | float (bits : UInt64)
deriving DecidableEq, Repr

/-- A JSON value. -/
inductive Json where
  /-- The empty value. -/
  | null
  /-- A truth value. -/
  | bool (value : Bool)
  /-- A number. -/
  | number (value : Number)
  /-- A text. -/
  | string (text : String)
  /-- A list of values. -/
  | array (items : List Json)
  /-- Named values. -/
  | object (fields : List (String × Json))
deriving Repr, Inhabited

namespace Json

/-- Whether the value is the empty one. -/
def isNull : Json → Bool
  | .null => true
  | _ => false

/-- Named values in the order of their names. -/
abbrev Fields := List (String × Json)

/-- Set a field. In a list sorted by key the result is sorted too, and an earlier value of the same
key is replaced. -/
def Fields.set (key : String) (value : Json) : Fields → Fields
  | [] => [(key, value)]
  | field :: rest =>
    if key < field.1 then (key, value) :: field :: rest
    else if key = field.1 then (key, value) :: rest
    else field :: Fields.set key value rest

/-- The value of a key. -/
def Fields.get? (fields : Fields) (key : String) : Option Json :=
  (fields.find? (·.1 == key)).map (·.2)

/-- Entries as the fields of an object, sorted by key, each key once. Of equal keys the first one
counts, as it does where a key is looked up. -/
def Fields.ofEntries (entries : List (String × Json)) : Fields :=
  entries.foldr (fun entry sorted => set entry.1 entry.2 sorted) []

/-- The fields that are left when others are set over them one after the other, except those that
are null. -/
def Fields.overlay (upper lower : Fields) : Fields :=
  upper.foldl (fun merged field => if isNull field.2 then merged else set field.1 field.2 merged)
    lower

/-- An object with the given fields, sorted by key. Of equal keys the last one counts. -/
def ofFields (fields : List (String × Json)) : Json :=
  .object (fields.foldl (fun sorted field => Fields.set field.1 field.2 sorted) [])

/-- The field of an object; anything else has no fields. -/
def field? (value : Json) (key : String) : Option Json :=
  match value with
  | .object fields => Fields.get? fields key
  | _ => none

/-- The text of a text value. -/
def text? : Json → Option String
  | .string text => some text
  | _ => none

/-- The integer of an integral number. -/
def int? : Json → Option Int
  | .number (.int value) => some value
  | _ => none

/-- A natural number as a value. -/
def ofNat (n : Nat) : Json :=
  .number (.int n)

/-- A word as a value. -/
def ofUInt32 (n : UInt32) : Json :=
  ofNat n.toNat

/-- A list of texts as a value. -/
def ofTexts (texts : List String) : Json :=
  .array (texts.map .string)

/-- A value that may be absent; absence is the empty value. -/
def ofOption {α : Type} (write : α → Json) : Option α → Json
  | none => .null
  | some a => write a

end Json

end EditorBridge
