import EditorBridge.Proofs.Compile.Request
import EditorBridge.Trigger

/-!
# What triggers lead to

The compile command always leads to something: to the compile of the active document, or to one
error notification. A saved document leads to something exactly if it is a Z file and saving is to
compile, and then to what the command would lead to.

## Main results

* `command_cases`: the compile command starts a request or is refused with a notification.
* `command_eq_started_iff`: when it starts a request, and which.
* `exists_started_iff`: a Z document with an absolute path only needs a compiler.
* `saved_eq`: a saved document is ignored, or treated as by the command.
-/

namespace EditorBridge.Trigger

open Compile (Request)

/-- Without a document nothing can be compiled. -/
theorem compile_none (settings : Settings) (current : Except SystemError Path) :
    compile none settings current = .error .noActiveEditor := rfl

/-- The compile of a document that is there. -/
theorem compile_some (source : Source) (settings : Settings)
    (current : Except SystemError Path) :
    compile (some source) settings current =
      if source.isZ then (Request.make source.path settings current).mapError .request
      else .error (.notZFile source.path) := by
  cases hz : source.isZ with
  | false =>
    simp [compile, hz]
    rfl
  | true => simp [compile, hz]

theorem command_of_error {active : Option Source} {settings : Settings}
    {current : Except SystemError Path} {cause : TriggerError}
    (hcompile : compile active settings current = .error cause) :
    command active settings current = .rejected (.error cause.message) := by
  rw [command, hcompile]
  rfl

theorem command_of_ok {active : Option Source} {settings : Settings}
    {current : Except SystemError Path} {request : Request}
    (hcompile : compile active settings current = .ok request) :
    command active settings current = .started request := by
  rw [command, hcompile]
  rfl

/-- The compile command starts a request, or it is refused with one error notification. -/
theorem command_cases (active : Option Source) (settings : Settings)
    (current : Except SystemError Path) :
    (∃ request, command active settings current = .started request) ∨
      ∃ cause : TriggerError,
        command active settings current = .rejected (.error cause.message) := by
  cases hcompile : compile active settings current with
  | ok request => exact .inl ⟨request, command_of_ok hcompile⟩
  | error cause => exact .inr ⟨cause, command_of_error hcompile⟩

/-- A request is started exactly for an active Z document for which there is one. -/
theorem command_eq_started_iff {active : Option Source} {settings : Settings}
    {current : Except SystemError Path} {request : Request} :
    command active settings current = .started request ↔
      ∃ source, active = some source ∧ source.isZ = true ∧
        Request.make source.path settings current = .ok request := by
  have hstarted : command active settings current = .started request ↔
      compile active settings current = .ok request := by
    unfold command
    cases compile active settings current <;> simp [Reaction.ofRequest]
  rw [hstarted]
  cases active with
  | none => simp [compile_none]
  | some source =>
    rw [compile_some]
    cases hz : source.isZ <;> simp [hz, mapError_eq_ok_iff]

/-- For a Z document with an absolute path only the compiler can be missing. -/
theorem exists_started_iff {source : Source} (hz : source.isZ = true)
    (habsolute : source.path.isAbsolute = true) (settings : Settings)
    (current : Except SystemError Path) :
    (∃ request, command (some source) settings current = .started request) ↔
      Text.trim settings.compilerPath ≠ "" := by
  constructor
  · rintro ⟨request, hstarted⟩
    obtain ⟨source', hsource, -, hmake⟩ := command_eq_started_iff.mp hstarted
    exact (Request.make_eq_ok_iff.mp hmake).2.1
  · intro hcompiler
    obtain ⟨filePath, hfile⟩ := Path.exists_absolute_eq_ok habsolute current
    exact ⟨_, command_eq_started_iff.mpr ⟨source, rfl, hz, Request.make_eq_ok_iff.mpr
      ⟨Path.bytes_ne_nil habsolute, hcompiler, filePath, hfile, rfl⟩⟩⟩

/-- A saved document leads to what the compile command would lead to, if it is a Z file and saving
is to compile, and otherwise to nothing. -/
theorem saved_eq (source : Source) (settings : Settings) (current : Except SystemError Path) :
    saved source settings current =
      if source.isZ && settings.autoCompileOnSave then command (some source) settings current
      else .ignored := by
  rw [saved, command, compile_some]
  cases source.isZ <;> rfl

/-- What a saved document starts, the compile command would start too. -/
theorem command_of_saved {source : Source} {settings : Settings}
    {current : Except SystemError Path} {request : Request}
    (hsaved : saved source settings current = .started request) :
    command (some source) settings current = .started request := by
  rw [saved_eq] at hsaved
  split at hsaved
  · exact hsaved
  · exact nomatch hsaved

end EditorBridge.Trigger
