import EditorBridge.Proofs.Compile.Completion

/-!
# Compiles alone

What a compile leaves that runs to its end alone, on a log that does not fail, and how the entries
that report a result are made up.

## Main results

* `run_never`: on a log that does not fail it does not matter how much was logged before.
* `complete_dispatch`: all that the compile of a request leaves.
* `Result.exitSucceeded_ofOutcome_iff`: when a compile has succeeded.
* `exists_report_eq`: a report is lines of the log, and one notification behind them.
-/

namespace EditorBridge.Compile

namespace Task

variable {σ : Type} (launch : Invocation → σ → Outcome × σ)

/-- On a log that does not fail it does not matter how many lines were appended before. -/
theorem run_never (task : Task) (appended : Nat) (system : σ) :
    task.run launch (fun _ => false) appended system = task.complete launch system := by
  rw [complete]
  -- Both sides count on from their own start, so neither start may be fixed.
  suffices h : ∀ first second, task.run launch (fun _ => false) first system =
      task.run launch (fun _ => false) second system from h appended 0
  induction task generalizing system with
  | finished result => exact fun _ _ => rfl
  | record entry rest ih =>
    intro first second
    cases entry with
    | line text => simp only [run, ih system (first + 1) (second + 1)]
    | notification shown => simp only [run, ih system first second]
  | launch invocation rest ih =>
    exact fun first second => ih _ _ first second

@[simp]
theorem complete_finished (result : Result) (system : σ) :
    (finished result).complete launch system = ⟨[], some result, system⟩ := rfl

@[simp]
theorem complete_record (entry : Entry) (rest : Task) (system : σ) :
    (record entry rest).complete launch system =
      { rest.complete launch system with
        entries := entry :: (rest.complete launch system).entries } := by
  cases entry with
  | line text => simp only [complete, run, run_never launch rest 1]; rfl
  | notification shown => rfl

@[simp]
theorem complete_launch (invocation : Invocation) (rest : Outcome → Task) (system : σ) :
    (Task.launch invocation rest).complete launch system =
      (rest (launch invocation system).1).complete launch (launch invocation system).2 := rfl

@[simp]
theorem complete_recordAll (entries : List Entry) (rest : Task) (system : σ) :
    (recordAll entries rest).complete launch system =
      { rest.complete launch system with
        entries := entries ++ (rest.complete launch system).entries } := by
  induction entries with
  | nil => rfl
  | cons entry entries ih =>
    change (record entry (recordAll entries rest)).complete launch system = _
    rw [complete_record, ih]
    rfl

/-- The compile of a request announces the file, starts the compiler once and reports the result for
what came of it. -/
theorem complete_dispatch (request : Request) (system : σ) :
    (dispatch request).complete launch system =
      let ended := launch request.invocation system
      let result := Result.ofOutcome request ended.1
      ⟨.line ("Compiling: " ++ request.filePath.display) :: report result, some result,
        ended.2⟩ := by
  simp [dispatch, reporting]

end Task

namespace Result

/-- A compile succeeded exactly if there is no message about a failure. -/
theorem exitSucceeded_ofOutcome_iff_message (request : Request) (outcome : Outcome) :
    (ofOutcome request outcome).exitSucceeded = true ↔
      (ofOutcome request outcome).errorMessage = none := by
  cases outcome with
  | error cause => cases cause <;> simp [ofOutcome, launchFailure]
  | ok finished => simp [ofOutcome]

/-- A compile succeeded exactly if the program ran and exited with code zero. -/
theorem exitSucceeded_ofOutcome_iff (request : Request) (outcome : Outcome) :
    (ofOutcome request outcome).exitSucceeded = true ↔
      ∃ finished, outcome = .ok finished ∧ finished.status = .exited 0 := by
  cases outcome with
  | error cause => cases cause <;> simp [ofOutcome, launchFailure]
  | ok finished =>
    cases hstatus : finished.status <;> simp [ofOutcome, Status.succeeded, hstatus]

end Result

/-- A report is lines of the log, and then one notification: good news exactly if the compile
succeeded. -/
theorem exists_report_eq (result : Result) :
    ∃ (lines : List String) (shown : Notification),
      report result = lines.map .line ++ [.notification shown] ∧
      (shown.level = .info ↔ result.exitSucceeded = true) := by
  have hstderr : ∃ lines : List String, stderrLines result = lines.map .line := by
    unfold stderrLines
    split
    · exact ⟨[], rfl⟩
    · exact ⟨["stderr: " ++ result.stderr], rfl⟩
  obtain ⟨lines, hlines⟩ := hstderr
  unfold report
  cases hsucceeded : result.exitSucceeded with
  | false =>
    simp only [Result.failure?, hsucceeded, Bool.false_eq_true, if_false, hlines]
    exact ⟨("Error: " ++ _) :: lines, _, rfl, by simp⟩
  | true =>
    simp only [Result.failure?, hsucceeded, if_true, hlines]
    exact ⟨lines ++ ["stdout: " ++ result.stdout, successMessage], ⟨.info, successMessage⟩,
      by simp [Entry.info], by simp⟩

end EditorBridge.Compile
