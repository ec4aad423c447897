import EditorBridge.Proofs.CommandLine.Compiles
import EditorBridge.Proofs.Trigger

/-!
# Entry points agree

A compile can be asked for by a command of the editor, by saving a document and on the command line,
and each way has its own checks and its own words for a refusal. This module says that all of them
come to the same: the same program is started or the same error is shown, and the console of the
command line shows what the editor would show.

## Main definitions

* `Trigger.Reaction.carriedOut`: what a reaction leaves when its compile has run to its end.
* `CommandLine.Streams.put`: what a console writes for an entry.
* `CommandLine.fileLayer`: the settings file that a command line goes by.

## Main results

* `CommandLine.console_eq`: the console shows a journal by writing one entry after the other.
* `CommandLine.compileBy_eq`: a compile on the command line is the compile command on a console.
* `CommandLine.apply_loadSettings`: the settings of a command line are layers without an editor's.
* `entryPoints_agree`: the triggers and the command line come to the same.
-/

namespace EditorBridge

open Compile (Invocation Outcome Request Task)

namespace Trigger

variable {σ : Type} (launch : Invocation → σ → Outcome × σ) (system : σ)

/-- What a reaction leaves when the compile that it starts, if there is one, has run to its end. -/
def Reaction.carriedOut (reaction : Reaction) : Task.Run σ :=
  match reaction.parts with
  | (entries, none) => ⟨entries, none, system⟩
  | (entries, some task) =>
    let ended := task.complete launch system
    { ended with entries := entries ++ ended.entries }

@[simp]
theorem carriedOut_rejected (notice : Entry) :
    (Reaction.rejected notice).carriedOut launch system = ⟨[notice], none, system⟩ := rfl

@[simp]
theorem carriedOut_started (request : Request) :
    (Reaction.started request).carriedOut launch system =
      (Task.dispatch request).complete launch system := rfl

/-- A command that is carried out shows exactly one notification. -/
theorem length_notifications_carriedOut_command (active : Option Source) (settings : Settings)
    (current : Except SystemError Path) :
    let done := (command active settings current).carriedOut launch system
    (Journal.notifications done.entries).length = 1 := by
  dsimp only
  rcases command_cases active settings current with ⟨request, hreaction⟩ | ⟨cause, hreaction⟩
  · rw [hreaction, carriedOut_started, Task.complete_dispatch, Journal.notifications_line,
      Compile.notifications_report, List.length_singleton]
  · rw [hreaction]
    rfl

end Trigger

namespace CommandLine

/-! ## The console -/

/-- What was written to the output and to the error output. -/
structure Streams where
  /-- The output. -/
  stdout : String
  /-- The error output. -/
  stderr : String
deriving DecidableEq, Repr

namespace Streams

/-- Nothing is written yet. -/
def empty : Streams := ⟨"", ""⟩

/-- Write an entry as it comes: a line to the output, and a notification to the error output, where
an error is marked as one. -/
def put (streams : Streams) : Entry → Streams
  | .line text => { streams with stdout := streams.stdout ++ text ++ "\n" }
  | .notification ⟨.info, message⟩ =>
    { streams with stderr := streams.stderr ++ message ++ "\n" }
  | .notification ⟨.error, message⟩ =>
    { streams with stderr := streams.stderr ++ "Error: " ++ message ++ "\n" }

/-- Write entries one after the other. -/
def putAll (streams : Streams) (entries : List Entry) : Streams :=
  entries.foldl put streams

end Streams

/-- What is written for a journal are its lines and its notifications, each in their order. -/
theorem Streams.putAll_eq (streams : Streams) (journal : Journal) :
    streams.putAll journal =
      ⟨streams.stdout ++ String.join (journal.lines.map lineOf),
        streams.stderr ++ String.join (journal.notifications.map notificationLine)⟩ := by
  -- Each entry is written behind what is there, so the induction is for all streams at once.
  induction journal generalizing streams with
  | nil => simp [putAll]
  | cons entry rest ih =>
    have hstep : streams.putAll (entry :: rest) = (streams.put entry).putAll rest := rfl
    rw [hstep, ih]
    cases entry with
    | line text => simp [put, lineOf, String.append_assoc]
    | notification shown =>
      obtain ⟨level, message⟩ := shown
      cases level <;> simp [put, notificationLine, lineOf, String.append_assoc]

/-- The console shows a journal by writing one entry after the other. -/
theorem console_eq (code : Nat) (journal : Journal) :
    console code journal =
      ⟨code, (Streams.empty.putAll journal).stdout, (Streams.empty.putAll journal).stderr⟩ := by
  rw [Streams.putAll_eq, Streams.empty, String.empty_append, String.empty_append]
  rfl

/-- A command that fails before it does anything leaves what a console shows for an error. -/
theorem failure_eq_console (message : String) : failure message = console 1 [.error message] := by
  rw [failure, console]
  simp [notificationLine]

/-! ## The settings of a command line -/

/-- The settings file that a command line goes by: the one that it names, or else the one that is
found in the current directory, if there is one. -/
def fileLayer (world : World) (config : Option Path) : Except String (Option Settings) :=
  match config with
  | some path => (Settings.load world path).map some |>.mapError (·.message)
  | none => (world.currentPath.map (Settings.loadWorkspace world)).mapError (·.message)

/-- The settings of a command line are those of the layers with its file and its own values, and
without any from an editor. -/
theorem apply_loadSettings (world : World) (config : Option Path) (overrides : Settings.Patch) :
    (loadSettings world config).map overrides.apply =
      (fileLayer world config).bind fun file =>
        (Settings.Layers.resolve { file, editor := none, overrides }).mapError (·.message) := by
  cases config with
  | some path =>
    simp only [loadSettings, fileLayer]
    cases Settings.load world path <;> rfl
  | none =>
    simp only [loadSettings, fileLayer]
    cases world.currentPath <;> rfl

/-! ## Compiles on the command line -/

section Console

variable {σ : Type} (launch : Compile.Invocation → σ → Outcome × σ) (system : σ)

/-- The compile command, carried out on a console. -/
def commandOnConsole (active : Option Source) (settings : Settings)
    (current : Except SystemError Path) : Output × σ :=
  let done := (Trigger.command active settings current).carriedOut launch system
  let written := Streams.empty.putAll done.entries
  (⟨if done.result.any (·.exitSucceeded) then 0 else 1, written.stdout, written.stderr⟩,
    done.system)

variable {active : Option Source} {settings : Settings} {current : Except SystemError Path}

/-- A command that is refused leaves on a console what a command line leaves that fails. -/
theorem commandOnConsole_of_rejected {message : String}
    (hrejected : Trigger.command active settings current = .rejected (.error message)) :
    commandOnConsole launch system active settings current = (failure message, system) := by
  rw [failure_eq_console, console_eq, commandOnConsole, hrejected]
  rfl

/-- A command that starts a compile leaves on a console what the compile has reported by its end. -/
theorem commandOnConsole_of_started {request : Request}
    (hstarted : Trigger.command active settings current = .started request) :
    commandOnConsole launch system active settings current =
      let done := (Task.dispatch request).complete launch system
      (console (if done.result.any (·.exitSucceeded) then 0 else 1) done.entries, done.system) := by
  simp only [commandOnConsole, hstarted, console_eq, Trigger.carriedOut_started]

/-- A compile on the command line is the compile command, carried out on a console. -/
theorem compileBy_eq {world : World} {config : Option Path}
    (hsettings : loadSettings world config = .ok settings) (file : Path)
    (overrides : Settings.Patch) (force : Bool) :
    compileBy launch world config file overrides force system =
      commandOnConsole launch system (some (sourceOf file force)) (overrides.apply settings)
        world.currentPath := by
  have hrequest := requested_of_loadSettings hsettings file overrides force
  cases hcompile : Trigger.compile (some (sourceOf file force)) (overrides.apply settings)
    world.currentPath with
  -- A refusal is an error that is returned on one side, and a notification on the other.
  | error cause =>
    rw [hcompile] at hrequest
    rw [commandOnConsole_of_rejected launch system (Trigger.command_of_error hcompile),
      compileBy_of_not_requested hrequest]
  | ok request =>
    rw [hcompile] at hrequest
    rw [commandOnConsole_of_started launch system (Trigger.command_of_ok hcompile),
      compileBy_of_requested hrequest, Task.complete_dispatch]
    rfl

end Console

end CommandLine

/-! ## Agreement -/

/-- The triggers and the command line come to the same. A saved Z document leads to what the compile
command leads to, if saving is to compile: to the compile of the same request or to the same single
error, and whatever the programs do, to the same entries with one notification. A compile on the
command line writes to its two streams what the compile command would write there for the file as a
document without a language, or of the language Z by force, whatever the programs do; so a refusal is
one error line, and nothing stands in the output. And the settings that a command line goes by are those of the layers
with its file and its own values, and without any from an editor. -/
theorem entryPoints_agree :
    (∀ (source : Source) (settings : Settings) (current : Except SystemError Path),
      source.isZ = true → settings.autoCompileOnSave = true →
      let saved := Trigger.saved source settings current
      let command := Trigger.command (some source) settings current
      ((∃ request, saved = .started request ∧ command = .started request) ∨
        ∃ message, saved = .rejected (.error message) ∧ command = .rejected (.error message)) ∧
      ∀ (σ : Type) (launch : Invocation → σ → Outcome × σ) (system : σ),
        saved.carriedOut launch system = command.carriedOut launch system ∧
        (Journal.notifications (saved.carriedOut launch system).entries).length = 1) ∧
    (∀ (world : World) (input : Text.Bytes) (arguments compilerArgs : List String)
        (config : Option Path) (file : Path) (compiler : Option String) (force : Bool),
      CommandLine.Invocation.ofArguments arguments =
        .ok ⟨config, .compile file compiler compilerArgs force⟩ →
      let overrides : Settings.Patch :=
        { compilerPath := compiler
          compilerArgs := if compilerArgs.isEmpty then none else some compilerArgs }
      CommandLine.run world input arguments =
        CommandLine.compileBy World.launch world config file overrides force world) ∧
    (∀ (σ : Type) (launch : Invocation → σ → Outcome × σ) (system : σ) (world : World)
        (config : Option Path) (file : Path) (overrides : Settings.Patch) (force : Bool)
        (settings : Settings),
      CommandLine.loadSettings world config = .ok settings →
      let active := some (CommandLine.sourceOf file force)
      let ran := CommandLine.compileBy launch world config file overrides force system
      ran = CommandLine.commandOnConsole launch system active (overrides.apply settings)
        world.currentPath ∧
      ∀ message, Trigger.command active (overrides.apply settings) world.currentPath =
          .rejected (.error message) →
        ran = (⟨1, "", "Error: " ++ message ++ "\n"⟩, system)) ∧
    ∀ (world : World) (config : Option Path) (overrides : Settings.Patch),
      (CommandLine.loadSettings world config).map overrides.apply =
        (CommandLine.fileLayer world config).bind fun file =>
          (Settings.Layers.resolve { file, editor := none, overrides }).mapError (·.message) := by
  refine ⟨fun source settings current hz hauto => ?_, ?_, ?_,
    CommandLine.apply_loadSettings⟩
  · have hsame : Trigger.saved source settings current =
        Trigger.command (some source) settings current := by
      rw [Trigger.saved_eq, hz, hauto]
      rfl
    simp only [hsame, true_and, and_self]
    refine ⟨?_, fun σ launch system => ?_⟩
    · rcases Trigger.command_cases (some source) settings current with
        ⟨request, hreaction⟩ | ⟨cause, hreaction⟩
      · exact .inl ⟨request, hreaction⟩
      · exact .inr ⟨cause.message, hreaction⟩
    · exact Trigger.length_notifications_carriedOut_command launch system (some source) settings
        current
  · intro world input arguments compilerArgs config file compiler force hparsed overrides
    rw [CommandLine.run, hparsed]
    rfl
  · intro σ launch system world config file overrides force settings hsettings active ran
    have hran : ran = CommandLine.commandOnConsole launch system active (overrides.apply settings)
        world.currentPath :=
      CommandLine.compileBy_eq launch system hsettings file overrides force
    refine ⟨hran, fun message hrejected => ?_⟩
    rw [hran, CommandLine.commandOnConsole_of_rejected launch system hrejected]
    rfl

/-- A text file that is compiled by force is started as a Z document would be, without force it is
refused in the words of the compile command, and a saved document without a language whose path
holds blanks leads to what the command leads to. -/
theorem entryPoints_agree_forced :
    let world : World := ⟨FileSystem.empty.putDirectory [[0x77]], [[0x77]], []⟩
    let saved : Source := ⟨.ofText "my spec.Z", none⟩
    let settings : Settings := ⟨" zc", ["-O"], true⟩
    let refused := ["compile", "notes.txt"]
    let forced := ["compile", "--force", "--compiler", "zc", "notes.txt"]
    (saved.isZ = true ∧ settings.autoCompileOnSave = true ∧
      (Trigger.saved saved settings world.currentPath).carriedOut World.launch world =
        (Trigger.command (some saved) settings world.currentPath).carriedOut World.launch world) ∧
    (CommandLine.Invocation.ofArguments refused =
        .ok ⟨none, .compile (.ofText "notes.txt") none [] false⟩ ∧
      CommandLine.Invocation.ofArguments forced =
        .ok ⟨none, .compile (.ofText "notes.txt") (some "zc") [] true⟩ ∧
      CommandLine.loadSettings world none = .ok Settings.default) ∧
    CommandLine.run world [] refused = (⟨1, "", "Error: Current file is not a Z file\n"⟩, world) ∧
    CommandLine.run world [] forced =
      CommandLine.commandOnConsole World.launch world
        (some (CommandLine.sourceOf (.ofText "notes.txt") true))
        { Settings.default with compilerPath := "zc" } world.currentPath := by
  intro world saved settings refused forced
  have hz : saved.isZ = true := by decide +kernel
  have hrefused : CommandLine.Invocation.ofArguments refused =
      .ok ⟨none, .compile (.ofText "notes.txt") none [] false⟩ := rfl
  have hforced : CommandLine.Invocation.ofArguments forced =
      .ok ⟨none, .compile (.ofText "notes.txt") (some "zc") [] true⟩ := rfl
  have hsettings : CommandLine.loadSettings world none = .ok Settings.default := rfl
  have hnotZ : Trigger.command (some (CommandLine.sourceOf (.ofText "notes.txt") false)) Settings.default
      world.currentPath = .rejected (.error "Current file is not a Z file") := by decide +kernel
  obtain ⟨hsaved, hline, hconsole, -⟩ := entryPoints_agree
  have hrunRefused : CommandLine.run world [] refused = CommandLine.compileBy World.launch world none
      (.ofText "notes.txt") {} false world :=
    hline world [] refused [] none (.ofText "notes.txt") none false hrefused
  have hrunForced : CommandLine.run world [] forced = CommandLine.compileBy World.launch world none
      (.ofText "notes.txt") { compilerPath := some "zc" } true world :=
    hline world [] forced [] none (.ofText "notes.txt") (some "zc") true hforced
  refine ⟨⟨hz, rfl, ?_⟩, ⟨hrefused, hforced, hsettings⟩, ?_, ?_⟩
  · exact ((hsaved saved settings world.currentPath hz rfl).2 World World.launch world).1
  · obtain ⟨-, hmessage⟩ := hconsole World World.launch world world none (.ofText "notes.txt") {}
      false Settings.default hsettings
    exact hrunRefused.trans (hmessage "Current file is not a Z file" hnotZ)
  · obtain ⟨hsame, -⟩ := hconsole World World.launch world world none (.ofText "notes.txt")
      { compilerPath := some "zc" } true Settings.default hsettings
    exact hrunForced.trans hsame

end EditorBridge
