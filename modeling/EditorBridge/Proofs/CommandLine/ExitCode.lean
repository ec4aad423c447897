import EditorBridge.Proofs.CommandLine.Arguments
import EditorBridge.Proofs.CommandLine.Compiles
import EditorBridge.Proofs.Trigger
import Mathlib.Control.Monad.Basic

/-!
# Exit codes of compiles

A compile on the command line can fail in two ways: before anything is started, and then the reason
is handed up and written at the end, or after the compiler was tried, and then it is reported as for
an editor. Both come to the same for whoever called: the code is zero exactly if a compiler ran and
exited with zero, the error output is then the message of a success and nothing else, and otherwise
it begins with `Error: `.

What programs do is not fixed here. A system runs them by any function, and a system that is watched
keeps a record of all that it was asked to run.

## Main definitions

* `watched`: a system with a record of what it was asked to run.
* `Refused`: why a compile is not started.
* `Output.Truthful`: an output says what came of the programs that were run.

## Main results

* `refused_iff`: when nothing is started.
* `exit_code_tells_truth`: the code, the two outputs and what was run.
-/

namespace EditorBridge.CommandLine

open Compile (Outcome Request Result Task)

variable {σ : Type} {world : World} {config : Option Path} {file : Path}
  {overrides : Settings.Patch} {force : Bool}

/-! ## Watching a system -/

/-- The system that runs programs by `launch`, with a record of the programs that it was asked to run
and of what came of them. -/
def watched (launch : Compile.Invocation → σ → Outcome × σ) (invocation : Compile.Invocation)
    (system : σ × List (Compile.Invocation × Outcome)) :
    Outcome × σ × List (Compile.Invocation × Outcome) :=
  let ended := launch invocation system.1
  (ended.1, ended.2, system.2 ++ [(invocation, ended.1)])

/-! ## What is not started -/

/-- Why a compile on the command line is not started. -/
inductive Refused (world : World) (config : Option Path) (file : Path) (overrides : Settings.Patch)
    (force : Bool) : Prop
  /-- The settings cannot be read, or are none. -/
  | settings {message : String} : loadSettings world config = .error message →
      Refused world config file overrides force
  /-- The file is no Z file, and nothing forces a compile. -/
  | notZFile : force = false → file.hasZExtension = false →
      Refused world config file overrides force
  /-- There is no file. -/
  | emptyPath : file.bytes = [] → Refused world config file overrides force
  /-- The name of the compiler is blank. -/
  | emptyCompiler {settings : Settings} : loadSettings world config = .ok settings →
      Text.trim (overrides.apply settings).compilerPath = "" →
      Refused world config file overrides force
  /-- The path is relative, and the current directory is not known. -/
  | unresolvedPath {cause : SystemError} : file.absolute world.currentPath = .error cause →
      Refused world config file overrides force

/-- A request is made under settings that can be read, for a Z file or by force. -/
theorem requested_eq_ok_iff_make {request : Request} :
    requested world config file overrides force = .ok request ↔
      ∃ settings, loadSettings world config = .ok settings ∧
        (force = true ∨ file.hasZExtension = true) ∧
        Request.make file (overrides.apply settings) world.currentPath = .ok request := by
  have hz : (sourceOf file force).isZ = true ↔ force = true ∨ file.hasZExtension = true := by
    cases force <;> simp [sourceOf, Source.isZ]
  rw [requested_eq_ok_iff]
  refine exists_congr fun settings => and_congr_right fun _ => ?_
  rw [Trigger.compile_some, ← hz]
  -- The gate for Z files is the one thing between the settings and the request.
  cases (sourceOf file force).isZ with
  | true => simp only [if_true, true_and, mapError_eq_ok_iff, sourceOf]
  | false => exact iff_of_false (fun h => nomatch h) fun h => nomatch h.1

/-- Nothing is started exactly if there is a reason. -/
theorem refused_iff :
    (∃ message, requested world config file overrides force = .error message) ↔
      Refused world config file overrides force := by
  constructor
  · rintro ⟨message, hmessage⟩
    cases hsettings : loadSettings world config with
    | error fault => exact .settings hsettings
    | ok settings =>
      by_cases hz : force = true ∨ file.hasZExtension = true
      · -- What is left to fail is the request itself.
        cases hmake : Request.make file (overrides.apply settings) world.currentPath with
        | ok request =>
          rw [requested_eq_ok_iff_make.mpr ⟨settings, hsettings, hz, hmake⟩] at hmessage
          exact nomatch hmessage
        | error fault =>
          rw [Request.make_eq] at hmake
          split at hmake
          · next hfile => exact .emptyPath hfile
          split at hmake
          · next hcompiler => exact .emptyCompiler hsettings hcompiler
          split at hmake
          · next cause habsolute => exact .unresolvedPath habsolute
          · exact nomatch hmake
      · rw [not_or, Bool.not_eq_true, Bool.not_eq_true] at hz
        exact .notZFile hz.1 hz.2
  · intro hrefused
    cases hrequest : requested world config file overrides force with
    | error message => exact ⟨message, rfl⟩
    | ok request =>
      obtain ⟨settings, hsettings, hz, hmake⟩ := requested_eq_ok_iff_make.mp hrequest
      obtain ⟨hfile, hcompiler, whole, hwhole, -⟩ := Request.make_eq_ok_iff.mp hmake
      -- Each of the reasons is against what the request has been made of.
      cases hrefused with
      | settings hfault => exact nomatch hfault.symm.trans hsettings
      | notZFile hforce hextension => simp [hforce, hextension] at hz
      | emptyPath hempty => exact absurd hempty hfile
      | emptyCompiler hsettings' hempty =>
        rw [Except.ok.inj (hsettings'.symm.trans hsettings)] at hempty
        exact absurd hempty hcompiler
      | unresolvedPath hfault => exact nomatch hfault.symm.trans hwhole

/-! ## What is left -/

@[simp]
theorem code_console (code : Nat) (journal : Journal) : (console code journal).code = code := rfl

theorem stderr_console_report (code : Nat) (text : String) (result : Result) :
    (console code (.line text :: Compile.report result)).stderr =
      match result.failure? with
      | some reason => lineOf ("Error: " ++ ("Compilation failed: " ++ reason))
      | none => lineOf Compile.successMessage := by
  rw [console, Journal.notifications_line, Compile.notifications_report]
  cases result.failure? with
  | some reason => simp [notificationLine]
  | none => simp [notificationLine]

theorem stdout_console_ne (code : Nat) (text : String) (journal : Journal) :
    (console code (.line text :: journal)).stdout ≠ "" := by
  rw [console, Journal.lines_line]
  simp [lineOf]

/-! ## The truth about it -/

/-- An output tells the truth about the programs that were run, of which there is one at most. The
code is zero exactly if it was started and exited with zero, and then the error output is the message
of a success and nothing else. Otherwise the code is one, and the error output begins with
`Error: `. The output is empty exactly if no program was run. -/
structure Output.Truthful (output : Output) (attempts : List (Compile.Invocation × Outcome)) :
    Prop where
  once : attempts.length ≤ 1
  code_eq_zero_iff : output.code = 0 ↔ ∃ invocation finished,
    (invocation, .ok finished) ∈ attempts ∧ finished.status = .exited 0
  stderr_of_zero : output.code = 0 → output.stderr = Compile.successMessage ++ "\n"
  stderr_of_ne_zero : output.code ≠ 0 →
    output.code = 1 ∧ "Error: ".toList <+: output.stderr.toList
  stdout_eq_empty_iff : output.stdout = "" ↔ attempts = []

theorem error_prefix_lineOf (message : String) :
    "Error: ".toList <+: (lineOf ("Error: " ++ message)).toList := by
  rw [lineOf, String.append_assoc, String.toList_append]
  exact List.prefix_append _ _

theorem truthful_failure (message : String) : (failure message).Truthful [] where
  once := Nat.zero_le 1
  code_eq_zero_iff := by simp [failure]
  stderr_of_zero := by simp [failure]
  stderr_of_ne_zero := fun _ => ⟨rfl, error_prefix_lineOf message⟩
  stdout_eq_empty_iff := by simp [failure]

theorem truthful_console_report (request : Request) (outcome : Outcome) (text : String) :
    let result := Result.ofOutcome request outcome
    (console (if result.exitSucceeded then 0 else 1)
      (.line text :: Compile.report result)).Truthful [(request.invocation, outcome)] := by
  intro result
  have hexit := Result.exitSucceeded_ofOutcome_iff request outcome
  have hstderr := stderr_console_report (if result.exitSucceeded then 0 else 1) text result
  have hcode : (if result.exitSucceeded then 0 else 1) = 0 ↔ result.exitSucceeded = true := by
    cases result.exitSucceeded <;> simp
  refine ⟨Nat.le_refl 1, ?_, fun hzero => ?_, fun hone => ?_, ?_⟩
  · rw [code_console, hcode, hexit]
    refine ⟨fun ⟨finished, hended, hstatus⟩ => ?_, fun ⟨_, finished, hmem, hstatus⟩ => ?_⟩
    · exact ⟨request.invocation, finished, List.mem_singleton.mpr (by rw [hended]), hstatus⟩
    · exact ⟨finished, (Prod.mk.inj (List.mem_singleton.mp hmem)).2.symm, hstatus⟩
  · -- A success has no failure, and so the notification is its message.
    rw [code_console, hcode] at hzero
    rw [hstderr, Result.failure?, hzero]
    rfl
  · -- Otherwise the notification is the failure, and that is an error.
    rw [code_console, ne_eq, hcode, Bool.not_eq_true] at hone
    refine ⟨by rw [code_console, hone]; rfl, ?_⟩
    rw [hstderr, Result.failure?, hone]
    exact error_prefix_lineOf _
  · exact iff_of_false (stdout_console_ne _ text _) (List.cons_ne_nil _ _)

/-- The exit code of a compile on the command line tells the truth. A command line that is read as a
compile names a file, and it is carried out by the system that runs shell scripts. And on every
system, for every file, settings and options, and whatever the programs do, its code and its outputs
tell the truth about what was run. To watch the system changes nothing, and no program is run exactly
if there is a reason not to start the compile. -/
theorem exit_code_tells_truth :
    (∀ (world : World) (input : Text.Bytes) (arguments compilerArgs : List String)
        (config : Option Path) (file : Path) (compiler : Option String) (force : Bool),
      Invocation.ofArguments arguments = .ok ⟨config, .compile file compiler compilerArgs force⟩ →
      let overrides : Settings.Patch :=
        { compilerPath := compiler
          compilerArgs := if compilerArgs.isEmpty then none else some compilerArgs }
      file.bytes ≠ [] ∧
      run world input arguments =
        compileBy World.launch world config file overrides force world) ∧
    ∀ (σ : Type) (launch : Compile.Invocation → σ → Outcome × σ) (system : σ) (world : World)
        (config : Option Path) (file : Path) (overrides : Settings.Patch) (force : Bool),
      let ended := compileBy launch world config file overrides force system
      let observed := compileBy (watched launch) world config file overrides force (system, [])
      ended = (observed.1, observed.2.1) ∧ ended.1.Truthful observed.2.2 ∧
        (observed.2.2 = [] ↔ Refused world config file overrides force) := by
  constructor
  · intro world input arguments compilerArgs config file compiler force hparsed overrides
    refine ⟨file_ne_nil_of_ofArguments hparsed, ?_⟩
    rw [run, hparsed]
    rfl
  · intro σ launch system world config file overrides force
    rw [← refused_iff]
    cases hrequest : requested world config file overrides force with
    | error message =>
      -- Watched or not, the system is left as it was.
      rw [compileBy_of_not_requested hrequest, compileBy_of_not_requested hrequest]
      exact ⟨rfl, truthful_failure message, iff_of_true rfl ⟨message, rfl⟩⟩
    | ok request =>
      rw [compileBy_of_requested hrequest, compileBy_of_requested hrequest]
      refine ⟨rfl, truthful_console_report request _ _, ?_⟩
      exact iff_of_false (List.cons_ne_nil _ _) fun ⟨_, h⟩ => nomatch h

/-- A text file that is compiled by force, where the compiler exits with zero although it has written
a warning. The code is zero, and the warning is not in the error output. -/
theorem exit_code_tells_truth_warning :
    let world : World := ⟨FileSystem.empty.putDirectory [[0x77]], [[0x77]], []⟩
    let arguments := ["compile", "--force", "--compiler", " zc", "notes.txt"]
    let overrides : Settings.Patch := { compilerPath := some " zc" }
    let finished : Compile.Finished := ⟨.exited 0, [], Text.toBytes "warning"⟩
    let shown : Output :=
      ⟨0, "Compiling: /w/notes.txt\nstderr: warning\nstdout: \nCompilation completed successfully!\n",
        "Compilation completed successfully!\n"⟩
    Invocation.ofArguments arguments = .ok ⟨none, .compile (.ofText "notes.txt") (some " zc") [] true⟩ ∧
      run world [] arguments =
        compileBy World.launch world none (.ofText "notes.txt") overrides true world ∧
      compileBy (fun _ count => (.ok finished, count + 1)) world none (.ofText "notes.txt") overrides
        true 0 = (shown, 1) ∧
      shown.Truthful
        [(⟨Text.toBytes "zc", [Text.toBytes "/w/notes.txt"], .ofText "/w"⟩, .ok finished)] := by
  intro world arguments overrides finished shown
  have hparsed : Invocation.ofArguments arguments =
      .ok ⟨none, .compile (.ofText "notes.txt") (some " zc") [] true⟩ := rfl
  have hshown : compileBy (fun _ count => (.ok finished, count + 1)) world none
      (.ofText "notes.txt") overrides true 0 = (shown, 1) := by
    decide +kernel
  have hwatched : compileBy (watched fun _ count => (.ok finished, count + 1)) world none
      (.ofText "notes.txt") overrides true (0, []) =
        (shown, 1, [(⟨Text.toBytes "zc", [Text.toBytes "/w/notes.txt"], .ofText "/w"⟩,
          .ok finished)]) := by
    decide +kernel
  obtain ⟨-, hrun⟩ := exit_code_tells_truth.1 world [] arguments [] none (.ofText "notes.txt")
    (some " zc") true hparsed
  obtain ⟨-, htruth, -⟩ := exit_code_tells_truth.2 Nat (fun _ count => (.ok finished, count + 1)) 0
    world none (.ofText "notes.txt") overrides true
  rw [hshown, hwatched] at htruth
  exact ⟨hparsed, hrun, hshown, htruth⟩

end EditorBridge.CommandLine
