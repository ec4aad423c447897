import EditorBridge.Json.Expect
import EditorBridge.Word

/-!
# Records

Readers for values with named parts. A record is an object with a field for each part, or a list
with an item for each part. Of several faults the one that is met first is reported: in an object a
wrong value before a missing one and wrong values by the order of their keys, in a list the
leftmost.
-/

namespace EditorBridge.Json

/-- What is wrong with one part of a record. -/
structure PartFault where
  /-- The name of the part. -/
  key : String
  /-- Why its value cannot be used; nothing if there is none. -/
  cause : Option Mismatch
deriving DecidableEq, Repr

/-- A reader for records with some parts. -/
structure Record (α : Type) where
  /-- The names of the parts in order. -/
  keys : List String
  /-- Read the values of the parts, which may be missing; `listed` says that they are items of a
  list. -/
  read : (listed : Bool) → List (Option Json) → Except (List PartFault) α

namespace Record

/-- The record without parts. -/
def constant {α : Type} (value : α) : Record α :=
  ⟨[], fun _ _ => .ok value⟩

/-- The parts of two records one after another. -/
def append {α β γ : Type} (combine : α → β → γ) (first : Record α) (second : Record β) :
    Record γ where
  keys := first.keys ++ second.keys
  read listed values :=
    let left := first.read listed (values.take first.keys.length)
    let right := second.read listed (values.drop first.keys.length)
    match left, right with
    | .ok a, .ok b => .ok (combine a b)
    | .ok _, .error faults => .error faults
    | .error faults, .ok _ => .error faults
    | .error faults, .error more => .error (faults ++ more)

instance : Applicative Record where
  pure := constant
  seq first second := append (fun f a => f a) first (second ())

/-- One part whose value is read, or that is missing. -/
def part {α : Type} (key : String) (missing : (listed : Bool) → Option α)
    (value : Json → Except Mismatch α) : Record α where
  keys := [key]
  read listed values :=
    match values.head?.join with
    | some given => (value given).mapError fun cause => [⟨key, some cause⟩]
    | none =>
      match missing listed with
      | some default => .ok default
      | none => .error [⟨key, none⟩]

/-- A part that has to be there. -/
def required {α : Type} (key : String) (value : Json → Except Mismatch α) : Record α :=
  part key (fun _ => none) value

/-- A part with a value for when it is missing. -/
def defaulted {α : Type} (key : String) (default : α) (value : Json → Except Mismatch α) :
    Record α :=
  part key (fun _ => some default) value

/-- The value of a part that may be null. -/
def nullable {α : Type} (value : Json → Except Mismatch α) : Json → Except Mismatch (Option α)
  | .null => .ok none
  | given => some <$> value given

/-- A part that may be null, and missing in an object. -/
def optional {α : Type} (key : String) (value : Json → Except Mismatch α) : Record (Option α) :=
  part key (fun listed => if listed then none else some none) (nullable value)

/-- Of the wrong values in an object, the one with the least key. -/
def leastWrong? (faults : List PartFault) : Option (String × Mismatch) :=
  (faults.filterMap fun fault => fault.cause.map (fault.key, ·)).foldl
    (fun least next =>
      match least with
      | none => some next
      | some kept => if next.1 < kept.1 then some next else some kept)
    none

/-- The fault of an object that is reported. -/
def objectFault (faults : List PartFault) : Mismatch :=
  match leastWrong? faults, faults with
  | some (_, cause), _ => cause
  | none, fault :: _ => .missing fault.key
  | none, [] => .other ""

/-- The fault of a list of some length that is reported. -/
def listFault (items : Nat) (expected : String) (faults : List PartFault) : Mismatch :=
  match faults.head?.bind (·.cause) with
  | some cause => cause
  | none => .count items expected

/-- Read the fields of an object. -/
def ofFields {α : Type} (record : Record α) (fields : Fields) : Except Mismatch α :=
  (record.read false (record.keys.map (Fields.get? fields))).mapError objectFault

/-- The words for a list with an item for every part. -/
def listForm (name : String) (count : Nat) : String :=
  name ++ " with " ++ toString count ++ (if count = 1 then " element" else " elements")

/-- Read the items of a list. -/
def ofItems {α : Type} (record : Record α) (name : String) (items : List Json) :
    Except Mismatch α := do
  let count := record.keys.length
  let values := items.map some ++ List.replicate (count - items.length) none
  let value ← (record.read true values).mapError (listFault items.length (listForm name count))
  if count < items.length then throw (.count items.length "fewer elements in array")
  return value

end Record

/-- The words for a record of the given name. -/
def recordForm (name : String) : String := "struct " ++ name

/-- The value as a record. -/
def expectRecord {α : Type} (name : String) (record : Record α) : Json → Except Mismatch α
  | .object fields => record.ofFields fields
  | .array items => record.ofItems (recordForm name) items
  | value => value.unexpected (recordForm name)

/-- The fields of a value that has to be an object because records are spread over it. -/
def expectSpread (name : String) : Json → Except Mismatch Fields
  | .object fields => .ok fields
  | value => value.unexpected (recordForm name)

/-- The value as an integer that fits a kind of word. -/
def expectInteger (kind : String) (fits : Int → Bool) : Json → Except Mismatch Int
  | .number (.int value) =>
    if fits value then .ok value
    else .error (.value (.integer value) kind)
  | value => value.unexpected kind

/-- The value as a word of 32 bits. -/
def expectUInt32 (value : Json) : Except Mismatch UInt32 :=
  (fun n => n.toNat.toUInt32) <$> expectInteger "u32" (Word.fits 32) value

/-- The value as a signed integer of 32 bits. -/
def expectInt32 : Json → Except Mismatch Int :=
  expectInteger "i32" (Word.fitsSigned 32)

/-- Names in a list of alternatives. -/
def alternatives (names : List String) : String :=
  match names.map fun name => "\x60" ++ name ++ "\x60" with
  | [name] => name
  | [first, second] => first ++ " or " ++ second
  | quoted => "one of " ++ ", ".intercalate quoted

/-- The value as one of some names. -/
def expectName (names : List String) : Json → Except Mismatch String
  | .string name =>
    if names.contains name then .ok name else .error (.unknownName name (alternatives names))
  | value => value.unexpected "string or map"

end EditorBridge.Json
