import EditorBridge.FileSystem

/-!
# Programs

How a command is found and what running it means. Every program is a script in the end: the
system's shell itself, or a file whose first line names its interpreter. Finding a program gives
the words that the shell is started with.
-/

namespace EditorBridge.Program

open Text (Bytes)

/-- The bytes that begin the first line of a script with an interpreter. -/
def interpreterMark : Bytes := [0x23, 0x21]

/-- Whether a byte is a blank of an interpreter line. -/
def isBlank (b : UInt8) : Bool := b = 0x20 || b = 0x09

/-- The interpreter of a script and its one argument, by the first line of the script. -/
def interpreter? (contents : Bytes) : Option (Bytes × Option Bytes) :=
  if !interpreterMark.isPrefixOf contents then none
  else
    let line := ((contents.drop 2).takeWhile (· ≠ 0x0a)).dropWhile isBlank
    let name := line.takeWhile fun b => !isBlank b
    let argument := (((line.dropWhile fun b => !isBlank b).dropWhile isBlank).reverse.dropWhile
      isBlank).reverse
    if name.isEmpty then none
    else some (name, if argument.isEmpty then none else some argument)

/-- How often an interpreter may be a script itself. -/
def nesting : Nat := 5

/-- The interpreter of the program at a path, and its one argument. The shell needs none. -/
def interpreterAt (world : World) (path : Bytes) :
    Except SystemError (Option (Bytes × Option Bytes)) := do
  match ← world.files.resolve world.current ⟨path⟩ with
  | (_, .directory) => throw .permissionDenied
  | (_, .file _ false) => throw .permissionDenied
  | (_, .shell) => return none
  | (_, .file contents true) =>
    match interpreter? contents with
    | none => throw .notAProgram
    | some interpreter => return some interpreter

/-- The words that start the shell for the program at a path. -/
def start (world : World) (depth : Nat) (path : Bytes) (words : List Bytes) :
    Except SystemError (List Bytes) := do
  match ← interpreterAt world path with
  | none => return words
  | some (name, argument) =>
    match depth with
    | 0 => throw .notAProgram
    | depth + 1 => start world depth name (name :: argument.toList ++ path :: words.drop 1)

/-- Try a program in one directory after another. One that may not be executed does not end the
search, but it is what the search fails with. -/
def search (world : World) (name : Bytes) (words : List Bytes) (denied : Bool) :
    List Path → Except SystemError (List Bytes)
  | [] => .error (if denied then .permissionDenied else .notFound)
  | directory :: rest =>
    match start world nesting (directory.child ⟨name⟩).bytes words with
    | .error .permissionDenied => search world name words true rest
    | .error .notFound | .error .notADirectory => search world name words denied rest
    | result => result

/-- The words that start the shell for a command: a path if there is a slash in it, or else a name
that is looked up. The first of the words is the command itself. -/
def find (world : World) (command : Bytes) (arguments : List Bytes) :
    Except SystemError (List Bytes) :=
  if command.isEmpty then .error .notFound
  else if command.contains Path.slash then start world nesting command (command :: arguments)
  else if FileSystem.nameLimit < command.length then .error .nameTooLong
  else search world command (command :: arguments) false world.searchPath

/-- Whether a path names a file that may be executed. -/
def isExecutable (world : World) (path : Path) : Bool :=
  match world.files.resolve world.current path with
  | .ok (_, .shell) | .ok (_, .file _ true) => true
  | _ => false

/-- The absolute path of a command. One that is relative is taken from the current directory, where
its own dots are left out. -/
def placed (current : Path) (command : Path) : Path :=
  if command.isAbsolute then command
  else
    (command.components.dropWhile (· == .current)).foldl
      (fun whole step =>
        match step with
        | .name name => whole.child ⟨name⟩
        | .up => whole.child ⟨Path.above⟩
        | _ => whole)
      current

/-- The places where a command is looked for. One of several components is a path, any other one is
looked for in the directories of the search path. These are taken as they are written: one that
begins with a tilde is not moved to a home directory. -/
def candidates (world : World) (command : Path) : List Path :=
  match world.currentPath, decide (1 < command.components.length) with
  | .ok current, true => [placed current command]
  | _, _ => world.searchPath.map (·.child command)

/-- The file that a command is looked up as. -/
def locate? (world : World) (command : Bytes) : Option Path :=
  if command.contains 0 then none
  else (candidates world ⟨command⟩).find? (isExecutable world)

end EditorBridge.Program
