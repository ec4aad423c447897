import EditorBridge.Path
import EditorBridge.Settings.Basic
import EditorBridge.SystemError
import EditorBridge.Text.Blank
import EditorBridge.Text.Quoted

/-!
# Compile requests

A request says which program is to be started for a source file, with which arguments and in which
directory. The file's path is absolute, because the compiler runs in the directory of the file, and
it is handed over as a single argument whatever characters it holds.
-/

namespace EditorBridge.Compile

open Text (Bytes)

/-- Why no request can be made. -/
inductive RequestError where
  /-- The path of the file is empty. -/
  | emptyPath
  /-- The compiler's name is blank. -/
  | emptyCompiler
  /-- The path is relative and the current directory is unknown. -/
  | unresolvedPath (path : Path) (cause : SystemError)
deriving DecidableEq, Repr

/-- The words for an error. -/
def RequestError.message : RequestError → String
  | .emptyPath => "No file to compile"
  | .emptyCompiler => "No compiler configured"
  | .unresolvedPath path cause => "Cannot resolve " ++ path.display ++ ": " ++ cause.message

/-- One run of the compiler. -/
structure Request where
  /-- The source file, by its absolute path. -/
  filePath : Path
  /-- The directory of the source file. -/
  workingDirectory : Path
  /-- The program, by its name or path. -/
  compilerCommand : String
  /-- The arguments before the source file. -/
  compilerArgs : List String
deriving DecidableEq, Repr

/-- How a program is started. -/
structure Invocation where
  /-- The program, by its name or path. -/
  program : Bytes
  /-- Its arguments. -/
  arguments : List Bytes
  /-- The directory it starts in. -/
  directory : Path
deriving DecidableEq, Repr

namespace Request

/-- The request for a file under the given settings, or why there is none. The compiler's name is
taken without the blanks around it. -/
def make (path : Path) (settings : Settings) (current : Except SystemError Path) :
    Except RequestError Request := do
  if path.bytes.isEmpty then throw .emptyPath
  let compilerCommand := Text.trim settings.compilerPath
  if compilerCommand.isEmpty then throw .emptyCompiler
  let filePath ← (path.absolute current).mapError (.unresolvedPath path)
  return {
    filePath
    workingDirectory := filePath.parent?.getD filePath
    compilerCommand
    compilerArgs := settings.compilerArgs }

/-- All arguments, the source file last. -/
def arguments (request : Request) : List Bytes :=
  request.compilerArgs.map Text.toBytes ++ [request.filePath.bytes]

/-- The start of the compiler. -/
def invocation (request : Request) : Invocation where
  program := Text.toBytes request.compilerCommand
  arguments := request.arguments
  directory := request.workingDirectory

/-- Whether a word of a command line has to be quoted. -/
def needsQuotes (word : String) : Bool :=
  word.isEmpty || word.toList.any fun c => Text.isBlank c || c == '"' || c == '\''

/-- One word of a command line. -/
def displayWord (word : String) : String :=
  if needsQuotes word then Text.quoted word else word

/-- The command line as it is shown in messages. -/
def commandLine (request : Request) : String :=
  " ".intercalate
    ((request.compilerCommand :: request.compilerArgs ++ [request.filePath.display]).map
      displayWord)

end Request

end EditorBridge.Compile
