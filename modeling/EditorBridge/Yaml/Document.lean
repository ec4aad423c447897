import EditorBridge.Yaml.Event

/-!
# Documents

The first document of a text as a flat sequence of nodes, in which every mention of a named node
points to that node. A document may end in a fault; what stands before it can still be read.
-/

namespace EditorBridge.Yaml

/-- What a document consists of. -/
inductive Item where
  /-- The content of a text without any document. -/
  | void
  /-- Another mention of the node that has the given number. -/
  | mention (number : Nat)
  /-- A scalar. -/
  | scalar (value : Scalar)
  /-- The beginning of a list. -/
  | sequenceStart
  /-- The end of a list. -/
  | sequenceEnd
  /-- The beginning of a table. -/
  | mappingStart
  /-- The end of a table. -/
  | mappingEnd
deriving DecidableEq, Repr

/-- The items of a document that follow some place, each with its own. -/
abbrev Items := List (Item × Mark)

/-- Why a document is cut short. -/
inductive Defect where
  /-- The text is no YAML. -/
  | fault (fault : Fault)
  /-- A node is mentioned that has not been named. -/
  | unknownName (mark : Mark)
deriving DecidableEq, Repr

/-- A document. -/
structure Document where
  /-- Its items. -/
  items : Items
  /-- The places of the named nodes by their numbers; of equal numbers the first one counts. -/
  nodes : List (Nat × Nat)
  /-- Why it is cut short, if it is. -/
  defect : Option Defect
deriving Repr

/-- A document that has been collected in part. -/
structure Collection where
  /-- The items so far, the last one first. -/
  items : Items := []
  /-- The numbers of the names, the last one first. -/
  names : List (String × Nat) := []
  /-- The places of the nodes by their numbers, the last one first. -/
  nodes : List (Nat × Nat) := []

namespace Collection

/-- The collection with an item more. -/
def add (found : Collection) (item : Item) (mark : Mark) : Collection :=
  { found with items := (item, mark) :: found.items }

/-- The collection in which the next item has a name. A name that is given again points to the new
node from then on. A node's number is how many different names there were before. -/
def name (found : Collection) : Option String → Collection
  | none => found
  | some name =>
    let number := found.names.length
    { found with
      names := (name, number) :: found.names.filter (·.1 != name)
      nodes := (number, found.items.length) :: found.nodes }

/-- The document of a collection. -/
def finish (found : Collection) (defect : Option Defect) : Document :=
  ⟨found.items.reverse, found.nodes, defect⟩

end Collection

namespace Document

/-- Collect a document up to its end, and what follows it. -/
def collect (fault : Option Fault) (found : Collection) :
    List (Event × Mark) → Document × List (Event × Mark)
  | [] => (found.finish (fault.map .fault), [])
  | (event, mark) :: rest =>
    match event with
    | .documentStart => collect fault found rest
    | .documentEnd => (found.finish none, rest)
    | .streamEnd => ((found.add .void mark).finish none, (event, mark) :: rest)
    | .alias name =>
      match found.names.lookup name with
      | some number => collect fault (found.add (.mention number) mark) rest
      | none => (found.finish (some (.unknownName mark)), rest)
    | .scalar anchor value => collect fault ((found.name anchor).add (.scalar value) mark) rest
    | .sequenceStart anchor => collect fault ((found.name anchor).add .sequenceStart mark) rest
    | .sequenceEnd => collect fault (found.add .sequenceEnd mark) rest
    | .mappingStart anchor => collect fault ((found.name anchor).add .mappingStart mark) rest
    | .mappingEnd => collect fault (found.add .mappingEnd mark) rest

/-- The first document of a text, and whether nothing but the end of the text follows. -/
def ofText (text : String) : Document × Bool :=
  let found := Events.ofText text
  let (document, rest) := collect found.fault {} found.events
  (document, rest.head?.any (·.1 == .streamEnd))

/-- The items from the node with the given number on. -/
def mentioned (document : Document) (number : Nat) : Items :=
  document.items.drop ((document.nodes.lookup number).getD document.items.length)

end Document

end EditorBridge.Yaml
