import EditorBridge.Yaml.Document
import EditorBridge.Yaml.Value

/-!
# Reading documents

A document is read from its beginning on, and what is wrong with a value is noticed before what is
wrong behind it. A complaint about a value names the way to it and the place where it begins.
-/

namespace EditorBridge.Yaml

/-- One step of the way to a value. -/
inductive Turn where
  /-- To the value of a key. -/
  | key (name : String)
  /-- To the value of a key that is the mention of a node. -/
  | mentionedKey
  /-- To an item of a list. -/
  | item (number : Nat)
deriving DecidableEq, Repr

/-- The words for the way to a value, which has one step at least. -/
def wayText : List Turn → String
  | [] => ""
  | .key name :: rest => name ++ further rest
  | .mentionedKey :: rest => "?" ++ further rest
  | .item number :: rest => ".[" ++ toString number ++ "]" ++ further rest
where
  /-- The words for the steps after the first. -/
  further : List Turn → String
    | [] => ""
    | .key name :: rest => "." ++ name ++ further rest
    | .mentionedKey :: rest => ".?" ++ further rest
    | .item number :: rest => "[" ++ toString number ++ "]" ++ further rest

/-- Why a text cannot be read. -/
inductive ReadError where
  /-- A value is not of the expected kind. -/
  | mismatch (cause : Mismatch) (way : List Turn) (mark : Mark)
  /-- The document is cut short. -/
  | defect (cause : Defect)
  /-- The document ends before a value. -/
  | endOfText
  /-- There is another document. -/
  | severalDocuments
deriving DecidableEq, Repr

namespace ReadError

/-- The words for a place that is not the first one. -/
def placeText (mark : Mark) : String :=
  if mark.isFirst then "" else " at " ++ mark.display

/-- The words for an error. -/
def message : ReadError → String
  | .mismatch cause way mark =>
    (if way.isEmpty then "" else wayText way ++ ": ") ++ cause.message ++ placeText mark
  | .defect (.fault fault) => fault.message
  | .defect (.unknownName mark) => "unknown anchor" ++ placeText mark
  | .endOfText => "EOF while parsing a value"
  | .severalDocuments => "deserializing from YAML containing more than one document is not supported"

end ReadError

/-- The items behind the node that some items begin with, `depth` lists and tables being open. Of a
node that does not end, nothing is left. -/
def behindNode (depth : Nat) : Items → Items
  | [] => []
  | (item, _) :: rest =>
    match item, depth with
    | .sequenceStart, _ | .mappingStart, _ => behindNode (depth + 1) rest
    | .sequenceEnd, depth + 1 | .mappingEnd, depth + 1 =>
      if depth = 0 then rest else behindNode depth rest
    | _, 0 => rest
    | _, depth + 1 => behindNode (depth + 1) rest

theorem length_behindNode_le (depth : Nat) (items : Items) :
    (behindNode depth items).length ≤ items.length := by
  fun_induction behindNode depth items <;> simp_all <;> omega

namespace Document

/-- The error of a document that ends here. -/
def ended (document : Document) : ReadError :=
  match document.defect with
  | some cause => .defect cause
  | none => .endOfText

/-- Read the node that some items begin with. For the mention of another node, that one is read. -/
def readNode {α : Type} (document : Document) (items : Items)
    (read : Item → Mark → Items → Except ReadError α) : Except ReadError α :=
  match items with
  | [] => .error document.ended
  | (.mention number, _) :: _ =>
    match document.mentioned number with
    | [] => .error document.ended
    | (item, mark) :: rest => read item mark rest
  | (item, mark) :: rest => read item mark rest

/-- The error of a node that is not of the expected kind. -/
def mismatch (document : Document) (way : List Turn) (expected : String) (item : Item)
    (mark : Mark) : ReadError :=
  match item with
  | .scalar value => .mismatch (value.mismatch expected) way mark
  | .sequenceStart => .mismatch (.kind .sequence expected) way mark
  | .mappingStart => .mismatch (.kind .map expected) way mark
  | _ => document.ended

/-- The text of a node; every scalar has one. -/
def readText (document : Document) (way : List Turn) (expected : String) (items : Items) :
    Except ReadError String :=
  document.readNode items fun item mark _ =>
    match item with
    | .scalar value => .ok value.text
    | _ => .error (document.mismatch way expected item mark)

/-- The truth value that a scalar stands for where one is expected. It has to be plain, or a block
with the tag for truth values. -/
def truthOf? (value : Scalar) : Option Bool :=
  if value.style = .plain ∨ (value.style = .literal ∧ value.tag = some (coreTag "bool")) then
    truth? value.text
  else none

/-- The truth value of a node. -/
def readBool (document : Document) (way : List Turn) (items : Items) : Except ReadError Bool :=
  document.readNode items fun item mark _ =>
    match item with
    | .scalar value =>
      match truthOf? value with
      | some truth => .ok truth
      | none => .error (document.mismatch way "a boolean" item mark)
    | _ => .error (document.mismatch way "a boolean" item mark)

/-- The texts of the items of a list, from the item with the given number on. -/
def readItems (document : Document) (way : List Turn) (number : Nat) :
    Items → Except ReadError (List String)
  | [] => .error document.ended
  | (.sequenceEnd, _) :: _ => .ok []
  | node :: rest => do
    let text ← document.readText (way ++ [.item number]) "a string" (node :: rest)
    return text :: (← readItems document way (number + 1) rest)

/-- Whether a scalar stands where a value is missing. -/
def isMissing (value : Scalar) : Bool :=
  value.text.isEmpty && value.style == .plain

/-- The texts of a list; where the value is missing, none. -/
def readTexts (document : Document) (way : List Turn) (items : Items) :
    Except ReadError (List String) :=
  document.readNode items fun item mark rest =>
    match item with
    | .sequenceStart => document.readItems way 0 rest
    | .scalar value =>
      if isMissing value then .ok []
      else .error (document.mismatch way "a sequence" item mark)
    | _ => .error (document.mismatch way "a sequence" item mark)

/-- Read the fields of a table one after another. What has been read so far is updated by each
field, whose key has the given name; keys are only told apart by their texts. -/
def readFields {α : Type} (document : Document)
    (field : α → String → Turn → Items → Except ReadError α) (found : α) :
    Items → Except ReadError α
  | [] => .error document.ended
  | (.mappingEnd, _) :: _ => .ok found
  | (item, mark) :: rest => do
    let name ← document.readText [] "field identifier" ((item, mark) :: rest)
    let turn := match item with
      | .scalar _ => Turn.key name
      | _ => .mentionedKey
    let found ← field found name turn rest
    readFields document field found (behindNode 0 rest)
termination_by items => items.length
decreasing_by
  have := length_behindNode_le 0 rest
  simp only [List.length_cons]
  omega

/-- Read the table that a document is; where there is none, nothing is read. -/
def readTable {α : Type} (document : Document) (expected : String)
    (field : Mark → α → String → Turn → Items → Except ReadError α) (start : α) :
    Except ReadError α :=
  document.readNode document.items fun item mark rest =>
    match item with
    | .void => .ok start
    | .mappingStart => document.readFields (field mark) start rest
    | .scalar value =>
      if isMissing value then .ok start
      else .error (document.mismatch [] expected item mark)
    | _ => .error (document.mismatch [] expected item mark)

end Document

/-- Read a text that has to be one document. -/
def readDocument {α : Type} (text : String) (read : Document → Except ReadError α) :
    Except ReadError α := do
  let (document, last) := Document.ofText text
  let value ← read document
  match document.defect with
  | some cause => throw (.defect cause)
  | none => if last then return value else throw .severalDocuments

end EditorBridge.Yaml
