import EditorBridge.Text.Utf8

/-!
# Paths

A path is a string of bytes cut into parts by slashes. Empty parts and `.` parts name nothing,
except for a `.` that begins a relative path. The module gives the components of a path, its last
name and extension, its parent, and the absolute path it stands for.
-/

namespace EditorBridge

open Text (Bytes)

/-- A path as the system sees it. -/
structure Path where
  /-- Its bytes. -/
  bytes : Bytes
deriving DecidableEq, Repr

namespace Path

/-- The byte between parts. -/
def slash : UInt8 := 0x2f

/-- The byte before an extension. -/
def dot : UInt8 := 0x2e

/-- The part that names the directory it stands in. -/
def here : Bytes := [dot]

/-- The part that names the directory above. -/
def above : Bytes := [dot, dot]

/-- The path written as a text. -/
def ofText (text : String) : Path := ⟨Text.toBytes text⟩

/-- The path as a text, with a replacement for what is not UTF-8. -/
def display (path : Path) : String := Text.ofBytesLossy path.bytes

/-- The parts between the slashes; one more than there are slashes. -/
def split : Bytes → List Bytes
  | [] => [[]]
  | b :: rest =>
    if b = slash then [] :: split rest
    else
      match split rest with
      | [] => [[b]]
      | part :: parts => (b :: part) :: parts

/-- Parts with slashes between them. -/
def join : List Bytes → Bytes
  | [] => []
  | [part] => part
  | part :: parts => part ++ slash :: join parts

/-- Whether a part names nothing. -/
def isVoid (part : Bytes) : Bool :=
  part.isEmpty || part == here

/-- Whether the path starts at the root. -/
def isAbsolute (path : Path) : Bool :=
  path.bytes.head? == some slash

/-- One step of a path. -/
inductive Component where
  /-- The root. -/
  | root
  /-- The directory a relative path starts in, when it is written out. -/
  | current
  /-- The directory above. -/
  | up
  /-- A name. -/
  | name (bytes : Bytes)
deriving DecidableEq, Repr

/-- The step that a part stands for. -/
def Component.ofPart (part : Bytes) : Component :=
  if part = above then .up else .name part

/-- The steps for all parts that name something. -/
def steps (parts : List Bytes) : List Component :=
  (parts.filter (!isVoid ·)).map .ofPart

/-- The components of a path. -/
def components (path : Path) : List Component :=
  let parts := split path.bytes
  if path.isAbsolute then .root :: steps parts
  else if parts.head? = some here then .current :: steps parts
  else steps parts

/-- The last component, if it is a name. -/
def fileName? (path : Path) : Option Bytes :=
  match path.components.getLast? with
  | some (.name name) => some name
  | _ => none

/-- The part of a name after its last dot, when something stands before that dot. -/
def extensionOf? (name : Bytes) : Option Bytes :=
  let ending := name.reverse.takeWhile (· ≠ dot)
  if ending.length + 1 < name.length then some ending.reverse else none

/-- The extension of the file that the path names. -/
def extension? (path : Path) : Option Bytes :=
  path.fileName?.bind extensionOf?

/-- The parts up to the last one that names something. -/
def dropVoidEnd (parts : List Bytes) : List Bytes :=
  (parts.reverse.dropWhile isVoid).reverse

/-- The absolute path with a step less; the root has none. -/
def parent? (path : Path) : Option Path :=
  let parts := dropVoidEnd (split (path.bytes.drop 1))
  if parts.isEmpty then none
  else some ⟨slash :: join (dropVoidEnd parts.dropLast)⟩

/-- A path under a directory. An absolute path stays as it is. -/
def child (directory : Path) (path : Path) : Path :=
  if path.isAbsolute then path
  else if directory.bytes.isEmpty ∨ directory.bytes.getLast? = some slash then
    ⟨directory.bytes ++ path.bytes⟩
  else ⟨directory.bytes ++ slash :: path.bytes⟩

/-- The slashes an absolute path begins with: two exactly are kept, any other number is one. -/
def rootOf (bytes : Bytes) : Bytes :=
  let count := (bytes.takeWhile (· = slash)).length
  if count = 2 then [slash, slash] else [slash]

/-- The absolute path without void parts, `..` being kept. A relative path goes on from the current
directory, and a slash at the end stays. -/
def absolute {ε : Type} (path : Path) (current : Except ε Path) : Except ε Path := do
  let parts := (split path.bytes).filter (!isVoid ·)
  let base ← if path.isAbsolute then pure ⟨rootOf path.bytes⟩ else current
  let whole := parts.foldl (fun whole part => whole.child ⟨part⟩) base
  return if path.bytes.getLast? = some slash then whole.child ⟨[]⟩ else whole

end Path

end EditorBridge
