import EditorBridge.Compile.Outcome
import EditorBridge.Compile.Request
import EditorBridge.Shell.Run

/-!
# Launching programs

A program is started in a directory of its own. The change to that directory and the search for the
program may each fail with an error of the system; what the program does to the files stays.
-/

namespace EditorBridge

open Compile

/-- The world as the started program sees it. -/
def World.enter (world : World) (directory : Path) : Except SystemError World := do
  match ← world.files.resolve world.current directory with
  | (location, .directory) => return { world with current := location }
  | _ => throw .notADirectory

/-- Whether a program could be handed its name, arguments and directory. -/
def Compile.Invocation.hasNul (invocation : Invocation) : Bool :=
  invocation.program.contains 0 || invocation.directory.bytes.contains 0 ||
    invocation.arguments.any (·.contains 0)

/-- The words that start the shell for an invocation, and the world it starts in. -/
def World.prepare (world : World) (invocation : Invocation) :
    Except SystemError (World × List Text.Bytes) := do
  if invocation.hasNul then throw .nulInArgument
  let inside ← world.enter invocation.directory
  return (inside, ← Program.find inside invocation.program invocation.arguments)

/-- Run a program to its end. -/
def World.launch (invocation : Invocation) (world : World) : Outcome × World :=
  match world.prepare invocation with
  | .error cause => (.error cause, world)
  | .ok (inside, words) =>
    let ended := Shell.start inside words
    let status : Status := match ended.signal with
      | some signal => .signaled signal
      | none => .exited ended.state.status
    (.ok ⟨status, ended.state.collected 1, ended.state.collected 2⟩,
      { world with files := ended.state.world.files })

end EditorBridge
