import EditorBridge.CommandLine.Run

/-!
# The program

The command line in the system it is started in. Its world is what lies below the current directory,
together with the shells of the search path. What a command line does is `CommandLine.run`; here
files are read and written, and streams are moved.
-/

namespace EditorBridge.Console

open Text (Bytes)

/-- Directories are read this deep. -/
def depthLimit : Nat := 12

/-- Files are read up to this size in bytes. -/
def sizeLimit : UInt64 := 1048576

/-- The bytes a script begins with. -/
def scriptMark : Bytes := [0x23, 0x21]

/-- A file with its contents. Scripts can be run. -/
def fileNode (contents : Bytes) : Node := .file contents (scriptMark.isPrefixOf contents)

/-- The location that an absolute path is written for. -/
def locationOf (path : String) : Location :=
  (Path.split (Text.toBytes path)).filter fun part => !Path.isVoid part

/-- Add what lies in a directory, `depth` directories deep. -/
def readTree (depth : Nat) (path : String) (files : FileSystem) : IO FileSystem := do
  let mut files := files.putDirectory (locationOf path)
  match depth with
  | 0 => return files
  | depth + 1 =>
    for entry in ← ((← IO.currentDir) / path).readDir do
      let below := entry.path.toString
      if ← entry.path.isDir then files ← readTree depth below files
      else
        try
          if (← entry.path.metadata).byteSize ≤ sizeLimit then
            let contents ← IO.FS.readBinFile below
            files := files.putFile (locationOf below) (fileNode contents.toList)
        catch _ => pure ()
    return files

/-- The shells that the directories of the search path may hold. -/
def shellNames : List String := ["sh", "dash"]

/-- The world as it is now. -/
def readWorld : IO World := do
  let current := (← IO.currentDir).toString
  let searchPath := ((← IO.getEnv "PATH").getD "").splitOn ":"
  let mut files := FileSystem.empty
  for directory in searchPath do
    for name in shellNames do
      let shell := directory ++ "/" ++ name
      if ← ((← IO.currentDir) / shell).pathExists then
        files := files.putFile (locationOf shell) .shell
  files ← readTree depthLimit current files
  return { files, current := locationOf current, searchPath := searchPath.map Path.ofText }

/-- Write the files that were made or changed. -/
def saveChanges (before after : World) : IO Unit := do
  for (location, node) in after.files.nodes do
    match node with
    | .file contents _ =>
      if before.files.node? location != some node then
        IO.FS.writeBinFile (World.pathOf location).display ⟨contents.toArray⟩
    | _ => pure ()

/-- All that is still to be read. -/
def readInput : IO Bytes := do
  let input ← IO.getStdin
  let mut bytes := ByteArray.empty
  let mut reading := true
  while reading do
    let chunk ← input.read 65536
    reading := !chunk.isEmpty
    bytes := bytes ++ chunk
  return bytes.toList

/-- Receive a message in the world as it is now, and send what answers it. -/
def exchange (bridge : Rpc.Bridge) (body : Bytes) : IO Rpc.Bridge := do
  let world ← readWorld
  let (sent, next) := { bridge with session := { bridge.session with world } }.receive body
  saveChanges world next.session.world
  let output ← IO.getStdout
  for message in sent do
    output.write ⟨(Rpc.frame (Text.toBytes message.write)).toArray⟩
  output.flush
  return next

/-- Serve the editor at the other end of the standard streams until it is gone. -/
def serve (bridge : Rpc.Bridge) : IO Unit := do
  let input ← IO.getStdin
  let mut bridge := bridge
  let mut pending : Bytes := []
  while bridge.listening do
    match Rpc.unframe? pending with
    | some (body, rest) =>
      pending := rest
      bridge ← exchange bridge body
    | none =>
      let chunk ← input.read 65536
      if chunk.isEmpty then bridge := bridge.deaf
      else pending := pending ++ chunk.toList

/-- Write what a command leaves, and give its code. -/
def finish (output : CommandLine.Output) : IO UInt32 := do
  (← IO.getStdout).putStr output.stdout
  (← IO.getStderr).putStr output.stderr
  return output.code.toUInt32

/-- Run a command line to its end. The input is read only where a dash asks for it. -/
def runToEnd (world : World) (arguments : List String) : IO UInt32 := do
  let input ← if arguments.contains "-" then readInput else pure []
  let (output, after) := CommandLine.run world input arguments
  saveChanges world after
  finish output

end EditorBridge.Console

open EditorBridge in
/-- Carry out a command line. -/
def main (arguments : List String) : IO UInt32 := do
  let world ← Console.readWorld
  match CommandLine.Invocation.ofArguments arguments with
  | .ok { config, command := .serve autoCompileOnSave } =>
    match CommandLine.serveWith world config autoCompileOnSave with
    | .error message => Console.finish (CommandLine.failure message)
    | .ok bridge =>
      Console.serve bridge
      return 0
  | _ => Console.runToEnd world arguments
