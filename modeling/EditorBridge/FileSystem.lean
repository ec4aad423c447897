import EditorBridge.Path
import EditorBridge.SystemError

/-!
# Files

A tree of directories and files, and the resolution of paths in it. A file holds bytes and may be
executable; the system's own shell is a program without readable contents.
-/

namespace EditorBridge

open Text (Bytes)

/-- The names that lead from the root to a place. -/
abbrev Location := List Bytes

/-- What stands at a location. -/
inductive Node where
  /-- A directory. -/
  | directory
  /-- A file with its contents. -/
  | file (contents : Bytes) (executable : Bool)
  /-- The program that runs shell scripts. -/
  | shell
deriving DecidableEq, Repr

/-- The nodes of a file system by location. -/
structure FileSystem where
  /-- Nodes other than the root, each location at most once. -/
  nodes : List (Location × Node)
deriving Repr

namespace FileSystem

/-- The file system that holds nothing but the root. -/
def empty : FileSystem := ⟨[]⟩

/-- The node at a location; the root is always a directory. -/
def node? (files : FileSystem) (location : Location) : Option Node :=
  if location.isEmpty then some .directory
  else (files.nodes.find? (·.1 == location)).map (·.2)

/-- Put a node at a location, in place of any other. -/
def put (files : FileSystem) (location : Location) (node : Node) : FileSystem :=
  ⟨(location, node) :: files.nodes.filter (·.1 != location)⟩

/-- Make a directory and all above it. What exists stays. -/
def putDirectory (files : FileSystem) (location : Location) : FileSystem :=
  ((List.range (location.length + 1)).map location.take).foldl
    (fun files place => if (files.node? place).isSome then files else files.put place .directory)
    files

/-- Make a file and all directories above it. -/
def putFile (files : FileSystem) (location : Location) (node : Node) : FileSystem :=
  (files.putDirectory location.dropLast).put location node

/-- The longest name a directory can hold. -/
def nameLimit : Nat := 255

/-- A path has to be shorter than this. -/
def pathLimit : Nat := 4096

/-- Follow the parts of a path from a location. The place reached need not exist if it is the last;
every place that is left has to be a directory. -/
def follow (files : FileSystem) (place : Location) : List Bytes → Except SystemError Location
  | [] => .ok place
  | part :: rest =>
    match files.node? place with
    | none => .error .notFound
    | some .directory =>
      if Path.isVoid part then follow files place rest
      else if part = Path.above then follow files place.dropLast rest
      else if nameLimit < part.length then .error .nameTooLong
      else follow files (place ++ [part]) rest
    | some _ => .error .notADirectory

/-- The location that a path stands for, seen from a directory. It need not exist. -/
def locate (files : FileSystem) (current : Location) (path : Path) :
    Except SystemError Location :=
  if path.bytes.isEmpty then .error .notFound
  else if pathLimit ≤ path.bytes.length then .error .nameTooLong
  else files.follow (if path.isAbsolute then [] else current) (Path.split path.bytes)

/-- The location of something that exists, and what it is. -/
def resolve (files : FileSystem) (current : Location) (path : Path) :
    Except SystemError (Location × Node) := do
  let location ← files.locate current path
  match files.node? location with
  | none => .error .notFound
  | some node => .ok (location, node)

/-- Whether a path names anything. -/
def hasEntry (files : FileSystem) (current : Location) (path : Path) : Bool :=
  !path.bytes.contains 0 && (files.resolve current path).toBool

/-- The contents of the file that a path names. -/
def read (files : FileSystem) (current : Location) (path : Path) : Except SystemError Bytes := do
  if path.bytes.contains 0 then throw .nulInPath
  match ← files.resolve current path with
  | (_, .directory) => .error .isADirectory
  | (_, .file contents _) => .ok contents
  | (_, .shell) => .error .notText

/-- The text of the file that a path names. -/
def readText (files : FileSystem) (current : Location) (path : Path) :
    Except SystemError String := do
  match Text.ofBytes? (← files.read current path) with
  | some text => .ok text
  | none => .error .notText

end FileSystem

/-- What a program sees of the system it runs in. -/
structure World where
  /-- The files. -/
  files : FileSystem
  /-- The current directory. -/
  current : Location
  /-- The directories in which programs are looked up by name. -/
  searchPath : List Path
deriving Repr

namespace World

/-- The absolute path of a location. -/
def pathOf (location : Location) : Path :=
  ⟨Path.slash :: Path.join location⟩

/-- The path of the current directory, unless it is gone. -/
def currentPath (world : World) : Except SystemError Path :=
  match world.files.node? world.current with
  | some .directory => .ok (pathOf world.current)
  | _ => .error .notFound

end World

end EditorBridge
