import EditorBridge.Compile.Task
import EditorBridge.Proofs.Journal

/-!
# Compiles among others

A compile that runs among other activities takes its steps one at a time, and its program may end in
any way. This module says what a compile can have recorded when it has ended, whatever ran in
between.

## Main definitions

* `Task.Step`: one step of a compile, with what it records.
* `Task.Yields`: what a compile can have recorded by its end, and its result.

## Main results

* `Step.yields`: a step leaves no more ways to end than there were.
* `yields_run`: a compile that is run to its end alone ends in one of the ways.
* `yields_dispatch_iff`: how the compile of a request can end.
* `notifications_report`: a report shows exactly one notification.
-/

namespace EditorBridge.Compile

namespace Task

/-- One step of a compile, with what it records: an entry is recorded, or the program has ended in
some way. -/
inductive Step : Task → List Entry → Task → Prop where
  | record (entry : Entry) (rest : Task) : Step (.record entry rest) [entry] rest
  | launch (invocation : Invocation) (rest : Outcome → Task) (outcome : Outcome) :
      Step (.launch invocation rest) [] (rest outcome)

/-- What a compile can record until its end, and the result it can have. -/
inductive Yields : Task → List Entry → Result → Prop where
  | finished (result : Result) : Yields (.finished result) [] result
  | record {rest : Task} {entries : List Entry} {result : Result} (entry : Entry) :
      Yields rest entries result → Yields (.record entry rest) (entry :: entries) result
  | launch {rest : Outcome → Task} {entries : List Entry} {result : Result}
      (invocation : Invocation) (outcome : Outcome) :
      Yields (rest outcome) entries result → Yields (.launch invocation rest) entries result

/-- However a compile ends after a step, so it could have ended before. -/
theorem Step.yields {task rest : Task} {recorded entries : List Entry} {result : Result}
    (hstep : Step task recorded rest) (hrest : rest.Yields entries result) :
    task.Yields (recorded ++ entries) result := by
  cases hstep with
  | record entry => exact .record entry hrest
  | launch invocation rest outcome => exact .launch invocation outcome hrest

/-- A compile that is run to its end alone, on a log that does not fail, ends in one of the ways. -/
theorem yields_run {σ : Type} (launch : Invocation → σ → Outcome × σ) (task : Task) (appended : Nat)
    (system : σ) :
    let ended := task.run launch (fun _ => false) appended system
    ∃ result, ended.result = some result ∧ task.Yields ended.entries result := by
  induction task generalizing appended system with
  | finished result => exact ⟨result, rfl, .finished result⟩
  | record entry rest ih =>
    cases entry with
    | line text =>
      obtain ⟨result, hresult, hyields⟩ := ih (appended + 1) system
      exact ⟨result, hresult, .record _ hyields⟩
    | notification shown =>
      obtain ⟨result, hresult, hyields⟩ := ih appended system
      exact ⟨result, hresult, .record _ hyields⟩
  | launch invocation rest ih =>
    obtain ⟨result, hresult, hyields⟩ := ih (launch invocation system).1 appended
      (launch invocation system).2
    exact ⟨result, hresult, .launch invocation _ hyields⟩

theorem yields_finished_iff {result result' : Result} {entries : List Entry} :
    (finished result).Yields entries result' ↔ entries = [] ∧ result' = result := by
  constructor
  · rintro ⟨⟩
    exact ⟨rfl, rfl⟩
  · rintro ⟨rfl, rfl⟩
    exact .finished result'

theorem yields_recordAll_iff {first entries : List Entry} {rest : Task} {result : Result} :
    (recordAll first rest).Yields entries result ↔
      ∃ later, entries = first ++ later ∧ rest.Yields later result := by
  induction first generalizing entries with
  | nil => simp [recordAll]
  | cons entry first ih =>
    constructor
    · rintro ⟨⟩
      next later hlater =>
      obtain ⟨later, rfl, hrest⟩ := ih.mp hlater
      exact ⟨later, rfl, hrest⟩
    · rintro ⟨later, rfl, hrest⟩
      exact .record entry (ih.mpr ⟨later, rfl, hrest⟩)

theorem yields_reporting_iff {reported result : Result} {entries : List Entry} :
    (reporting reported).Yields entries result ↔ entries = report reported ∧ result = reported := by
  rw [reporting, yields_recordAll_iff]
  constructor
  · rintro ⟨later, rfl, hlater⟩
    obtain ⟨rfl, rfl⟩ := yields_finished_iff.mp hlater
    exact ⟨List.append_nil _, rfl⟩
  · rintro ⟨rfl, rfl⟩
    exact ⟨[], (List.append_nil _).symm, .finished result⟩

/-- The compile of a request can only end by announcing the file and reporting the result for some
outcome of the compiler. -/
theorem yields_dispatch_iff {request : Request} {entries : List Entry} {result : Result} :
    (dispatch request).Yields entries result ↔
      ∃ outcome, result = .ofOutcome request outcome ∧
        entries = .line ("Compiling: " ++ request.filePath.display) :: report result := by
  constructor
  · intro hyields
    cases hyields with
    | record _ hlaunch =>
      cases hlaunch with
      | launch _ outcome hreport =>
        obtain ⟨rfl, rfl⟩ := yields_reporting_iff.mp hreport
        exact ⟨outcome, rfl, rfl⟩
  · rintro ⟨outcome, rfl, rfl⟩
    exact .record _ (.launch _ outcome (yields_reporting_iff.mpr ⟨rfl, rfl⟩))

end Task

/-- The line for the error output shows nothing. -/
@[simp]
theorem notifications_stderrLines (result : Result) :
    Journal.notifications (stderrLines result) = [] := by
  unfold stderrLines
  split <;> rfl

/-- A report shows exactly one notification, and it is the error exactly if the compile failed. -/
theorem notifications_report (result : Result) :
    Journal.notifications (report result) =
      [match result.failure? with
        | some message => ⟨.error, "Compilation failed: " ++ message⟩
        | none => ⟨.info, successMessage⟩] := by
  unfold report
  cases result.failure? <;> simp

end EditorBridge.Compile
