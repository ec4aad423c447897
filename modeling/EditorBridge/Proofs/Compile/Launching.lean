import EditorBridge.FileSystem
import EditorBridge.Proofs.Compile.Alone
import EditorBridge.Proofs.Path
import EditorBridge.Proofs.Text.Blank
import EditorBridge.Proofs.Trigger

/-!
# How the compiler is started

The compiler is started by its name without the blanks around it, with the configured arguments and
behind them the absolute path of the document as the only further one, in a directory with an
absolute path. A document whose editor announced no language is a Z file by its path, and so it is
by the path that is handed over.

## Main definitions

* `Invocation.Fits`: a program is started as it should be for a document under given settings.
* `Task.Launches`: the programs that a compile can start.

## Main results

* `launches_dispatch_iff`: the compile of a request starts the program of the request, and no other.
* `Trigger.fits_of_started`: what the compile command starts is started as it should be.
-/

namespace EditorBridge

open Compile (Invocation Request Task Result Outcome)

namespace Compile

/-- A program is started as it should be for a document under given settings: by the compiler's name
without the blanks around it, with the configured arguments and then the absolute path of the
document, in a directory with an absolute path. -/
structure Invocation.Fits (invocation : Invocation) (source : Source) (settings : Settings)
    (current : Except SystemError Path) : Prop where
  program : ∃ name, invocation.program = Text.toBytes name ∧
    name = Text.trim settings.compilerPath ∧ name ≠ "" ∧
    (∀ c, name.toList.head? = some c → Text.isBlank c = false) ∧
    (∀ c, name.toList.getLast? = some c → Text.isBlank c = false)
  arguments : ∃ file : Path,
    invocation.arguments = settings.compilerArgs.map Text.toBytes ++ [file.bytes] ∧
    source.path.absolute current = .ok file ∧ file.bytes.head? = some Path.slash ∧
    (source.languageId = none → file.hasZExtension = true)
  directory : invocation.directory.isAbsolute = true

/-- A request for a Z file starts its program as it should. -/
theorem Request.fits_of_make {source : Source} {settings : Settings}
    {current : Except SystemError Path} {request : Request}
    (hcurrent : ∀ base, current = .ok base → base.isAbsolute = true) (hz : source.isZ = true)
    (hmake : make source.path settings current = .ok request) :
    request.invocation.Fits source settings current := by
  obtain ⟨-, hcompiler, file, hfile, rfl⟩ := make_eq_ok_iff.mp hmake
  have habsolute : file.isAbsolute = true := Path.isAbsolute_of_absolute hcurrent hfile
  refine ⟨⟨_, program_invocation _, rfl, hcompiler, fun c hc => ?_, fun c hc => ?_⟩,
    ⟨file, rfl, hfile, ?_, fun hlanguage => ?_⟩, ?_⟩
  · rw [Text.trim, String.toList_ofList] at hc
    exact Text.isBlank_head?_trimChars hc
  · rw [Text.trim, String.toList_ofList] at hc
    exact Text.isBlank_getLast?_trimChars hc
  · simpa [Path.isAbsolute] using habsolute
  · simp only [Source.isZ, hlanguage] at hz
    exact Path.hasZExtension_of_absolute hcurrent hfile hz
  · change (file.parent?.getD file).isAbsolute = true
    cases hparent : file.parent? with
    | none => exact habsolute
    | some parent => exact Path.isAbsolute_of_parent? hparent

namespace Task

/-- The programs that a compile can start on its way to the end. -/
inductive Launches : Task → Invocation → Prop where
  | here (invocation : Invocation) (rest : Outcome → Task) :
      Launches (.launch invocation rest) invocation
  | record {rest : Task} {invocation : Invocation} (entry : Entry) :
      Launches rest invocation → Launches (.record entry rest) invocation
  | launch {rest : Outcome → Task} {invocation : Invocation} (earlier : Invocation)
      (outcome : Outcome) :
      Launches (rest outcome) invocation → Launches (.launch earlier rest) invocation

/-- What a compile can start after a step it could start before. -/
theorem Step.launches {task rest : Task} {recorded : List Entry} {invocation : Invocation}
    (hstep : Step task recorded rest) (hrest : rest.Launches invocation) :
    task.Launches invocation := by
  cases hstep with
  | record entry => exact .record entry hrest
  | launch earlier rest outcome => exact .launch earlier outcome hrest

theorem not_launches_recordAll {entries : List Entry} {result : Result} {invocation : Invocation} :
    ¬ (recordAll entries (.finished result)).Launches invocation := by
  intro hlaunches
  induction entries with
  | nil => exact nomatch hlaunches
  | cons entry entries ih =>
    cases hlaunches with
    | record _ hrest => exact ih hrest

/-- The compile of a request starts the program of the request, and no other. -/
theorem launches_dispatch_iff {request : Request} {invocation : Invocation} :
    (dispatch request).Launches invocation ↔ invocation = request.invocation := by
  constructor
  · intro hlaunches
    cases hlaunches with
    | record _ hlaunch =>
      cases hlaunch with
      | here => rfl
      | launch _ _ hreport => exact absurd hreport not_launches_recordAll
  · rintro rfl
    exact .record _ (.here _ _)

end Task

end Compile

/-- The path of the current directory is absolute. -/
theorem World.isAbsolute_of_currentPath {world : World} {base : Path}
    (hbase : world.currentPath = .ok base) : base.isAbsolute = true := by
  unfold currentPath at hbase
  split at hbase
  · rw [← Except.ok.inj hbase]
    rfl
  · exact nomatch hbase

/-- What the compile command starts is started as it should be. -/
theorem Trigger.fits_of_started {active : Option Source} {settings : Settings}
    {current : Except SystemError Path} {request : Request}
    (hcurrent : ∀ base, current = .ok base → base.isAbsolute = true)
    (hstarted : command active settings current = .started request) :
    ∃ source, active = some source ∧ request.invocation.Fits source settings current := by
  obtain ⟨source, hactive, hz, hmake⟩ := command_eq_started_iff.mp hstarted
  exact ⟨source, hactive, Request.fits_of_make hcurrent hz hmake⟩

end EditorBridge
