import EditorBridge.Compile.Outcome
import EditorBridge.Compile.Request
import EditorBridge.Journal

/-!
# Results and their reports

The result of a compile, and the entries by which it is reported: log lines first, and exactly one
notification at the end.
-/

namespace EditorBridge.Compile

/-- The result of one compile. -/
structure Result where
  /-- Whether the compiler ran and exited with code zero. -/
  exitSucceeded : Bool
  /-- What it wrote to its output. -/
  stdout : String
  /-- What it wrote to its error output. -/
  stderr : String
  /-- Why the compile failed. -/
  errorMessage : Option String
deriving DecidableEq, Repr, Inhabited

namespace Result

/-- The failure of a compile, if it failed. -/
def failure? (result : Result) : Option String :=
  if result.exitSucceeded then none
  else some (result.errorMessage.getD "Compiler exited unsuccessfully")

/-- The result of a compiler that could not be started. -/
def launchFailure (message : String) : Result :=
  ⟨false, "", "", some message⟩

/-- The result for a request whose compiler had the given outcome. -/
def ofOutcome (request : Request) : Outcome → Result
  | .error .notFound =>
    launchFailure ("Compiler not found: " ++ request.compilerCommand ++ " (" ++
      SystemError.notFound.message ++ ")")
  | .error cause =>
    launchFailure ("Failed to run " ++ request.compilerCommand ++ ": " ++ cause.message)
  | .ok finished => {
      exitSucceeded := finished.status.succeeded
      stdout := Text.ofBytesLossy finished.stdout
      stderr := Text.ofBytesLossy finished.stderr
      errorMessage :=
        if finished.status.succeeded then none
        else some ("Command failed: " ++ request.commandLine ++ " (" ++
          finished.status.message ++ ")") }

end Result

/-- The message of a compile that succeeded. -/
def successMessage : String := "Compilation completed successfully!"

/-- The line for what the compiler wrote to its error output, if it wrote anything. -/
def stderrLines (result : Result) : List Entry :=
  if result.stderr.isEmpty then [] else [.line ("stderr: " ++ result.stderr)]

/-- The entries that report a result. -/
def report (result : Result) : List Entry :=
  match result.failure? with
  | some message =>
    .line ("Error: " ++ message) :: stderrLines result ++
      [.error ("Compilation failed: " ++ message)]
  | none =>
    stderrLines result ++
      [.line ("stdout: " ++ result.stdout), .line successMessage, .info successMessage]

end EditorBridge.Compile
