import EditorBridge.Proofs.CommandLine.Compiles
import EditorBridge.Proofs.Server.Launching

/-!
# What is ever launched

There are two ways to a compile: the command line, and the triggers that the server reacts to.
Whichever is taken, the compiler is started by its name without the blanks around it, with the
configured arguments and the absolute path of the document behind them, in a directory with an
absolute path. So nothing in the name of a document is taken for an option or split, and what is
started for a document without a language is given a Z file.

## Main results

* `CommandLine.compileBy_cases`: a compile on the command line fails before it starts anything, or
  starts one program.
* `launched_fits`: what triggers, command lines and servers start.
-/

namespace EditorBridge

open Compile (Invocation Request Task Result Outcome)

namespace CommandLine

/-- In every system, a compile on the command line fails before it starts anything, or it starts one
program, as it should be started for the file under the settings with what the command line says in
front. -/
theorem compileBy_cases {σ : Type} (launch : Compile.Invocation → σ → Outcome × σ) (system : σ)
    (world : World) (config : Option Path) (file : Path) (overrides : Settings.Patch)
    (force : Bool) :
    let ran := compileBy launch world config file overrides force system
    (∃ message, ran = (failure message, system)) ∨
      ∃ (settings : Settings) (request : Request),
        loadSettings world config = .ok settings ∧
        request.invocation.Fits (sourceOf file force) (overrides.apply settings)
          world.currentPath ∧
        let ended := launch request.invocation system
        let result := Result.ofOutcome request ended.1
        ran = (console (if result.exitSucceeded then 0 else 1)
            (.line ("Compiling: " ++ request.filePath.display) :: Compile.report result),
          ended.2) := by
  intro ran
  cases hrequest : requested world config file overrides force with
  | error message => exact .inl ⟨message, compileBy_of_not_requested hrequest launch system⟩
  | ok request =>
    obtain ⟨settings, hsettings, hcompile⟩ := requested_eq_ok_iff.mp hrequest
    obtain ⟨_, hsource, hfits⟩ := Trigger.fits_of_started
      (fun _ => World.isAbsolute_of_currentPath) (Trigger.command_of_ok hcompile)
    obtain rfl := Option.some.inj hsource
    exact .inr ⟨settings, request, hsettings, hfits,
      compileBy_of_requested hrequest launch system⟩

end CommandLine

/-- What is ever started, by any entry point. The compile that the command or a saved document leads
to can start only what should be started for the document under the given settings. A compile on the
command line, of any file and with any options, starts nothing or one such program, whatever
programs do; the command line itself has the programs that there are. And whatever calls a server
receives and however their handlers and compiles run side by side: where a compile is about to start
a program, it is such a program, for the document of a call as it was when the call was received,
and under settings that were in force in the run. -/
theorem launched_fits :
    (∀ (active : Option Source) (settings : Settings) (current : Except SystemError Path)
        (request : Request) (invocation : Invocation),
      (∀ base, current = .ok base → base.isAbsolute = true) →
      (Trigger.command active settings current = .started request ∨
        ∃ saved, active = some saved ∧
          Trigger.saved saved settings current = .started request) →
      (Task.dispatch request).Launches invocation →
      ∃ source, active = some source ∧ invocation.Fits source settings current) ∧
    (∀ (world : World) (input : Text.Bytes) (config : Option Path) (file : Path)
        (compiler : Option String) (arguments : List String) (force : Bool),
      let overrides : Settings.Patch :=
        { compilerPath := compiler
          compilerArgs := if arguments.isEmpty then none else some arguments }
      CommandLine.runCommand world input ⟨config, .compile file compiler arguments force⟩ =
        CommandLine.compileBy World.launch world config file overrides force world ∧
      ∀ (σ : Type) (launch : Invocation → σ → Outcome × σ) (system : σ),
        let ran := CommandLine.compileBy launch world config file overrides force system
        (∃ message, ran = (CommandLine.failure message, system)) ∨
          ∃ (settings : Settings) (request : Request),
            CommandLine.loadSettings world config = .ok settings ∧
            request.invocation.Fits ⟨file, if force then some languageName else none⟩
              { settings with
                compilerPath := compiler.getD settings.compilerPath
                compilerArgs := if arguments.isEmpty then settings.compilerArgs else arguments }
              world.currentPath ∧
            let ended := launch request.invocation system
            let result := Result.ofOutcome request ended.1
            ran = (CommandLine.console (if result.exitSucceeded then 0 else 1)
                (.line ("Compiling: " ++ request.filePath.display) :: Compile.report result),
              ended.2)) ∧
    ∀ (server : Server) (system : System) (activity : Activity) (compiling : Compiling)
        (invocation : Invocation) (rest : Outcome → Task),
      System.Reachable (.idle server) system → activity ∈ system.activities →
      compiling ∈ activity.compiles → compiling.task = .launch invocation rest →
      ∃ (source : Source) (past : System) (world : World),
        activity.call.source? activity.origin = some source ∧
        System.Reachable (.idle server) past ∧ System.Reachable past system ∧
        invocation.Fits source past.server.settings world.currentPath := by
  refine ⟨?_, ?_, ?_⟩
  · intro active settings current request invocation hcurrent hreaction hlaunches
    have hstarted : Trigger.command active settings current = .started request := by
      obtain hcommand | ⟨saved, rfl, hsaved⟩ := hreaction
      · exact hcommand
      · exact Trigger.command_of_saved hsaved
    rw [Task.launches_dispatch_iff.mp hlaunches]
    exact Trigger.fits_of_started hcurrent hstarted
  · intro world input config file compiler arguments force overrides
    refine ⟨rfl, fun σ launch system => ?_⟩
    have hoverrides : ∀ settings, overrides.apply settings =
        { settings with
          compilerPath := compiler.getD settings.compilerPath
          compilerArgs := if arguments.isEmpty then settings.compilerArgs else arguments } := by
      intro settings
      cases arguments <;> rfl
    simp only [← hoverrides]
    exact CommandLine.compileBy_cases launch system world config file overrides force
  · intro server system activity compiling invocation rest hreach hactivity hcompiling hlaunch
    exact hreach.fits hactivity hcompiling hlaunch

/-- A document whose relative path looks like an option and holds a blank and a quote is handed to
the compiler as one absolute path, behind the arguments as they are configured. -/
theorem launched_fits_dash :
    let source : Source := ⟨.ofText "-o 'a.Z", none⟩
    let settings : Settings := ⟨" zc\t", ["-O", "two words"], false⟩
    let current : Except SystemError Path := .ok (.ofText "/my specs")
    let request : Request :=
      ⟨.ofText "/my specs/-o 'a.Z", .ofText "/my specs", "zc", ["-O", "two words"]⟩
    let invocation : Invocation :=
      ⟨Text.toBytes "zc", ["-O", "two words", "/my specs/-o 'a.Z"].map Text.toBytes,
        .ofText "/my specs"⟩
    Trigger.command (some source) settings current = .started request ∧
      (Task.dispatch request).Launches invocation ∧ invocation.Fits source settings current := by
  intro source settings current request invocation
  have hcurrent : ∀ base, current = .ok base → base.isAbsolute = true := by
    rintro base hbase
    rw [← Except.ok.inj hbase]
    decide
  have hstarted : Trigger.command (some source) settings current = .started request := by
    decide +kernel
  have hlaunches : (Task.dispatch request).Launches invocation :=
    Task.launches_dispatch_iff.mpr (by decide +kernel)
  obtain ⟨_, hsource, hfits⟩ :=
    launched_fits.1 (some source) settings current request invocation hcurrent (.inl hstarted)
      hlaunches
  obtain rfl := Option.some.inj hsource
  exact ⟨hstarted, hlaunches, hfits⟩

end EditorBridge
