import EditorBridge.CommandLine.Command
import EditorBridge.Rpc.Bridge
import EditorBridge.Rpc.Framing

/-!
# Running a command line

What a command writes and the code it ends with. Entries of the journal go to the console: lines to
the output, notifications to the error output.
-/

namespace EditorBridge.CommandLine

open Text (Bytes)

/-- What is left of a command that has run. -/
structure Output where
  /-- Its code; zero is success. -/
  code : Nat
  /-- What it wrote to its output. -/
  stdout : String
  /-- What it wrote to its error output. -/
  stderr : String
deriving DecidableEq, Repr

/-- A text as a line. -/
def lineOf (text : String) : String := text ++ "\n"

/-- The line for a notification. -/
def notificationLine (shown : Notification) : String :=
  match shown.level with
  | .info => lineOf shown.message
  | .error => lineOf ("Error: " ++ shown.message)

/-- A journal on the console. -/
def console (code : Nat) (journal : Journal) : Output where
  code := code
  stdout := String.join (journal.lines.map lineOf)
  stderr := String.join (journal.notifications.map notificationLine)

/-- The output of a command that failed before it did anything. -/
def failure (message : String) : Output :=
  ⟨1, "", lineOf ("Error: " ++ message)⟩

/-- The settings for a command: those of the file that is named, or else of the current
directory. -/
def loadSettings (world : World) (config : Option Path) : Except String Settings :=
  match config with
  | some path => (Settings.load world path).mapError (·.message)
  | none =>
    match world.currentPath with
    | .ok current => .ok (Settings.loadDefault world current)
    | .error cause => .error cause.message

/-- The document that a file of the command line is. Its language is only given by force. -/
def sourceOf (file : Path) (force : Bool) : Source :=
  ⟨file, if force then some languageName else none⟩

/-- Compile a file in a system that runs programs by `launch`. -/
def compileBy {σ : Type} (launch : Compile.Invocation → σ → Compile.Outcome × σ) (world : World)
    (config : Option Path) (file : Path) (overrides : Settings.Patch) (force : Bool) (system : σ) :
    Output × σ :=
  match loadSettings world config with
  | .error message => (failure message, system)
  | .ok settings =>
    match Trigger.compile (some (sourceOf file force)) (overrides.apply settings)
      world.currentPath with
    | .error error => (failure error.message, system)
    | .ok request =>
      let done := (Compile.Task.dispatch request).complete launch system
      let succeeded := done.result.any (·.exitSucceeded)
      (console (if succeeded then 0 else 1) done.entries, done.system)

/-- Compile a file, with the programs that there are. -/
def runCompile (world : World) (config : Option Path) (file : Path) (overrides : Settings.Patch)
    (force : Bool) : Output × World :=
  compileBy World.launch world config file overrides force world

/-- The text of a file, or of the input where the file is a dash. -/
def sourceText (world : World) (input : Bytes) (file : String) : Except SystemError String :=
  if file = "-" then (Text.ofBytes? input).elim (.error .notText) .ok
  else world.files.readText world.current (.ofText file)

/-- The JSON form of a range. -/
def rangeJson (range : Hover.WordRange) : Json :=
  .object [("line", .ofUInt32 range.line), ("start_col", .ofUInt32 range.startCol),
    ("end_col", .ofUInt32 range.endCol)]

/-- The JSON form of a hover. -/
def hoverJson (info : Hover.Info) : Json :=
  .object [("token", .string info.token), ("description", .string info.description),
    ("range", .ofOption rangeJson info.range)]

/-- A hover in a format. -/
def hoverText (format : Format) (info : Hover.Info) : String :=
  match format with
  | .markdown => info.markdown
  | .plain => info.plain
  | .json => (hoverJson info).pretty 0

/-- Show what is known about a place in a file. -/
def runHover (world : World) (input : Bytes) (file : String) (line column : UInt32)
    (format : Format) : Output :=
  match sourceText world input file with
  | .error cause => failure cause.message
  | .ok source =>
    match Hover.infoAt? source ⟨line, column⟩, format with
    | some info, _ => ⟨0, lineOf (hoverText format info), ""⟩
    | none, .json => ⟨0, lineOf "null", ""⟩
    | none, _ =>
      ⟨0, "", lineOf ("No hover information at " ++ toString line.toNat ++ ":" ++
        toString column.toNat)⟩

/-- List the keywords. -/
def runKeywords : Output :=
  ⟨0, String.join (Hover.keywords.map fun keyword => lineOf keyword.row), ""⟩

/-- Look up the compiler. -/
def runDetect (world : World) (config : Option Path) (overrides : Settings.Patch) : Output :=
  match loadSettings world config with
  | .error message => failure message
  | .ok settings =>
    let compiler := (overrides.apply settings).compilerPath
    match Program.locate? world (Text.toBytes compiler) with
    | some path => ⟨0, lineOf ("Compiler: " ++ compiler) ++ lineOf ("Resolved: " ++ path.display), ""⟩
    | none =>
      ⟨1, "", lineOf ("Compiler not found: " ++ compiler ++ " (cannot find binary path)")⟩

/-- The session that serves an editor. -/
def serveWith (world : World) (config : Option Path) (autoCompileOnSave : Bool) :
    Except String Rpc.Bridge := do
  let file ← config.mapM fun path => (Settings.load world path).mapError (·.message)
  let overrides : Settings.Patch :=
    { autoCompileOnSave := if autoCompileOnSave then some true else none }
  return { session := { server := Server.start overrides file, world } }

/-- Serve an editor whose messages are all there. -/
def runServe (world : World) (input : Bytes) (config : Option Path) (autoCompileOnSave : Bool) :
    Output × World :=
  match serveWith world config autoCompileOnSave with
  | .error message => (failure message, world)
  | .ok bridge =>
    let (sent, bridge) := bridge.receiveAll (Rpc.unframeAll input.length input)
    let written := sent.flatMap fun message => Rpc.frame (Text.toBytes message.write)
    (⟨0, Text.ofBytesLossy written, ""⟩, bridge.session.world)

/-- Run a command. -/
def runCommand (world : World) (input : Bytes) (invocation : Invocation) : Output × World :=
  match invocation.command with
  | .serve autoCompileOnSave => runServe world input invocation.config autoCompileOnSave
  | .compile file compiler arguments force =>
    let overrides : Settings.Patch :=
      { compilerPath := compiler
        compilerArgs := if arguments.isEmpty then none else some arguments }
    runCompile world invocation.config file overrides force
  | .hover file line column format => (runHover world input file line column format, world)
  | .keywords => (runKeywords, world)
  | .detect compiler => (runDetect world invocation.config { compilerPath := compiler }, world)

/-- The name and version of the program. -/
def versionText : String := Server.serverName ++ " " ++ Server.serverVersion

/-- The words about the program. -/
def helpText : String := UsageError.message .nothing

/-- The output of a command line that is not carried out. -/
def stopped : Stop → Output
  | .misuse error => ⟨2, "", lineOf error.message⟩
  | .version => ⟨0, lineOf versionText, ""⟩
  | .help => ⟨0, lineOf helpText, ""⟩

/-- Run a command line. -/
def run (world : World) (input : Bytes) (arguments : List String) : Output × World :=
  match Invocation.ofArguments arguments with
  | .ok invocation => runCommand world input invocation
  | .error stop => (stopped stop, world)

end EditorBridge.CommandLine
