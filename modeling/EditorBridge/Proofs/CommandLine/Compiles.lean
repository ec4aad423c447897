import EditorBridge.CommandLine.Run
import EditorBridge.Proofs.Compile.Alone
import EditorBridge.Proofs.Success

/-!
# Compiles on the command line

A compile on the command line makes out what is to be compiled, and fails in words if it cannot. If
it can, it announces the file, runs one program and reports on the console what came of it. What
programs do is left open: the system runs them by any function.

## Main definitions

* `requested`: the request that a compile on the command line starts.

## Main results

* `requested_eq_ok_iff`: a request is what the compile command makes under the settings.
* `compileBy_of_not_requested`, `compileBy_of_requested`: what a compile leaves that is not started,
  and one that is.
-/

namespace EditorBridge.CommandLine

open Compile (Outcome Request Result Task)

variable {σ : Type} {world : World} {config : Option Path} {file : Path}
  {overrides : Settings.Patch} {force : Bool} {settings : Settings} {request : Request}

/-- The request that a compile on the command line starts, or the words for there being none. -/
def requested (world : World) (config : Option Path) (file : Path) (overrides : Settings.Patch)
    (force : Bool) : Except String Request := do
  let settings ← loadSettings world config
  (Trigger.compile (some (sourceOf file force)) (overrides.apply settings)
    world.currentPath).mapError (·.message)

theorem requested_of_loadSettings (hsettings : loadSettings world config = .ok settings)
    (file : Path) (overrides : Settings.Patch) (force : Bool) :
    requested world config file overrides force =
      (Trigger.compile (some (sourceOf file force)) (overrides.apply settings)
        world.currentPath).mapError (·.message) := by
  rw [requested, hsettings]
  rfl

/-- A request is the one that the compile command makes for the file under the settings. -/
theorem requested_eq_ok_iff :
    requested world config file overrides force = .ok request ↔
      ∃ settings, loadSettings world config = .ok settings ∧
        Trigger.compile (some (sourceOf file force)) (overrides.apply settings)
          world.currentPath = .ok request := by
  simp only [requested, bind_eq_ok_iff, mapError_eq_ok_iff]

/-- Where a compile is not started, the outputs hold one line with the reason. -/
theorem compileBy_of_not_requested {message : String}
    (hrequest : requested world config file overrides force = .error message)
    (launch : Compile.Invocation → σ → Outcome × σ) (system : σ) :
    compileBy launch world config file overrides force system = (failure message, system) := by
  unfold compileBy
  -- The words come from the settings, or else from the request.
  cases hsettings : loadSettings world config with
  | error cause =>
    rw [requested, hsettings] at hrequest
    rw [Except.error.inj hrequest]
  | ok settings =>
    rw [requested_of_loadSettings hsettings file overrides force] at hrequest
    cases hcompile : Trigger.compile (some (sourceOf file force)) (overrides.apply settings)
      world.currentPath with
    | error cause =>
      rw [hcompile] at hrequest
      simp only [hcompile, ← Except.error.inj hrequest]
    | ok request =>
      rw [hcompile] at hrequest
      exact nomatch hrequest

/-- Where a compile is started, the file is announced, its program is run once, and what came of it
is reported. -/
theorem compileBy_of_requested
    (hrequest : requested world config file overrides force = .ok request)
    (launch : Compile.Invocation → σ → Outcome × σ) (system : σ) :
    compileBy launch world config file overrides force system =
      let ended := launch request.invocation system
      let result := Result.ofOutcome request ended.1
      (console (if result.exitSucceeded then 0 else 1)
        (.line ("Compiling: " ++ request.filePath.display) :: Compile.report result), ended.2) := by
  obtain ⟨settings, hsettings, hcompile⟩ := requested_eq_ok_iff.mp hrequest
  simp only [compileBy, hsettings, hcompile, Task.complete_dispatch, Option.any_some]

end EditorBridge.CommandLine
