import EditorBridge.Proofs.Compile.Alone
import Mathlib.Data.Nat.Find

/-!
# Compiles that nobody waits for

The log of a compile may fail at any line, and then the compile dies there. Whoever detached it
shows a notice in its place. This module says what is left for every way in which a log can fail: a
part of the lines that would have been logged, and behind them exactly one notification.

## Main results

* `run_of_quiet`, `run_of_failing`: a compile on a log that does not fail, and on one that does.
* `detached_dispatch`: all that a detached compile of a request leaves.
-/

namespace EditorBridge.Compile

namespace Task

variable {σ : Type} (launch : Invocation → σ → Outcome × σ) (fails : Nat → Bool)

/-- A log that fails at none of the lines of a compile is as good as one that never fails. -/
theorem run_of_quiet (task : Task) (appended : Nat) (system : σ)
    (hquiet : ∀ k < (Journal.lines (task.complete launch system).entries).length,
      fails (appended + k) = false) :
    task.run launch fails appended system = task.complete launch system := by
  induction task generalizing appended system with
  | finished result => rfl
  | record entry rest ih =>
    cases entry with
    | line text =>
      simp only [complete_record, Journal.lines_line, List.length_cons] at hquiet ⊢
      have hfirst : fails appended = false := hquiet 0 (Nat.zero_lt_succ _)
      have hrest := ih (appended + 1) system fun k hk => by
        rw [Nat.add_right_comm]
        exact hquiet (k + 1) (Nat.succ_lt_succ hk)
      simp only [run, hfirst, Bool.false_eq_true, if_false, hrest]
    | notification shown =>
      rw [complete_record] at hquiet ⊢
      simp only [run, ih appended system hquiet]
  | launch invocation rest ih => exact ih _ appended _ hquiet

/-- On a log whose first failure is at line `k` a compile dies without a result. It has recorded
what stands before that line in its record on a log that does not fail. -/
theorem run_of_failing (task : Task) (appended : Nat) (system : σ) {k : Nat}
    (hk : k < (Journal.lines (task.complete launch system).entries).length)
    (hfails : fails (appended + k) = true) (hbefore : ∀ j < k, fails (appended + j) = false) :
    let ended := task.run launch fails appended system
    ended.result = none ∧ (Journal.lines ended.entries).length = k ∧
      ∃ text later,
        (task.complete launch system).entries = ended.entries ++ .line text :: later := by
  induction task generalizing appended system k with
  | finished result => exact absurd hk (Nat.not_lt_zero k)
  | record entry rest ih =>
    cases entry with
    | line text =>
      rw [complete_record] at hk ⊢
      cases k with
      | zero => simp_all [run]
      | succ k =>
        have hfirst : fails appended = false := hbefore 0 (Nat.zero_lt_succ k)
        obtain ⟨hresult, hlength, failing, later, hentries⟩ :=
          ih (appended + 1) system (Nat.lt_of_succ_lt_succ hk)
            (by rw [Nat.add_right_comm]; exact hfails)
            fun j hj => by
              rw [Nat.add_right_comm]
              exact hbefore (j + 1) (Nat.succ_lt_succ hj)
        simp only [run, hfirst, Bool.false_eq_true, if_false]
        exact ⟨hresult, congrArg Nat.succ hlength, failing, later,
          congrArg (Entry.line text :: ·) hentries⟩
    | notification shown =>
      rw [complete_record] at hk ⊢
      obtain ⟨hresult, hlength, failing, later, hentries⟩ := ih appended system hk hfails hbefore
      exact ⟨hresult, hlength, failing, later, congrArg (Entry.notification shown :: ·) hentries⟩
  | launch invocation rest ih => exact ih _ appended _ hk hfails hbefore

end Task

/-- What stands before one of some lines that have a notification behind them are the lines before
it. -/
theorem lines_prefix_of_append {before later : List Entry} {text : String} {lines : List String}
    {shown : Notification}
    (h : lines.map .line ++ [.notification shown] = before ++ .line text :: later) :
    before = (Journal.lines before).map .line ∧ Journal.lines before <+: lines := by
  have hbefore : before ++ [.line text] <+: lines.map .line ++ [.notification shown] :=
    ⟨later, by rw [h, List.append_assoc]; rfl⟩
  rcases List.prefix_concat_iff.mp hbefore with hwhole | hlines
  · exact absurd (List.append_inj_right' hwhole rfl) (by simp)
  · have htaken := (List.prefix_append _ _).trans hlines
    rw [List.prefix_iff_eq_take, ← List.map_take] at htaken
    rw [htaken, Journal.lines_map_line]
    exact ⟨rfl, List.take_prefix _ _⟩

namespace Task

variable {σ : Type} (launch : Invocation → σ → Outcome × σ) {fails : Nat → Bool}

/-- The compile of a request leaves lines of the log, and behind them the notification of its
report. -/
theorem exists_complete_dispatch_eq (request : Request) (system : σ) :
    let quiet := (dispatch request).complete launch system
    let result := Result.ofOutcome request (launch request.invocation system).1
    ∃ shown, quiet.entries = (Journal.lines quiet.entries).map .line ++ [.notification shown] ∧
      Journal.notifications (report result) = [shown] := by
  intro quiet result
  obtain ⟨reported, shown, hreport, -⟩ := exists_report_eq result
  refine ⟨shown, ?_, by simp [hreport]⟩
  have hquiet : quiet.entries =
      .line ("Compiling: " ++ request.filePath.display) :: report result :=
    congrArg Run.entries (complete_dispatch launch request system)
  simp [hquiet, hreport]

/-- On a log that fails at none of its lines a detached compile needs no notice. -/
theorem detached_of_quiet {request : Request} {system : σ}
    (hquiet : ∀ k < (Journal.lines ((dispatch request).complete launch system).entries).length,
      fails k = false) :
    (dispatch request).detached launch fails system =
      (dispatch request).complete launch system := by
  have hrun := run_of_quiet launch fails (dispatch request) 0 system (by simpa using hquiet)
  simp only [detached, hrun, complete_dispatch, Option.isSome_some, if_true]

/-- On a log whose first failure is at line `k` a detached compile leaves the lines before that one,
and the notice. -/
theorem detached_of_failing {request : Request} {system : σ} {k : Nat}
    (hk : k < (Journal.lines ((dispatch request).complete launch system).entries).length)
    (hfails : fails k = true) (hbefore : ∀ j < k, fails j = false) :
    ((dispatch request).detached launch fails system).entries =
      ((Journal.lines ((dispatch request).complete launch system).entries).take k).map .line ++
        [deathNotice] := by
  obtain ⟨shown, hwhole, -⟩ := exists_complete_dispatch_eq launch request system
  obtain ⟨hdied, hlength, text, later, hentries⟩ :=
    run_of_failing launch fails (dispatch request) 0 system hk (by rwa [Nat.zero_add])
      (by simpa using hbefore)
  -- The failure is at a line, and the notification stands behind all lines.
  obtain ⟨hrecorded, htaken⟩ := lines_prefix_of_append (hwhole.symm.trans hentries)
  rw [List.prefix_iff_eq_take, hlength] at htaken
  rw [← htaken, ← hrecorded]
  simp only [detached, hdied, Option.isSome_none, Bool.false_eq_true, if_false]

/-- Whatever comes of the compiler and wherever the log fails, a detached compile leaves lines that
begin the log of a compile on a log that does not fail, and behind them exactly one notification.
If the log fails at none of them, all is as if nobody had to watch. Otherwise the lines are those
before the first failure, and the notification is an error that says that the compile has died. -/
theorem detached_dispatch (fails : Nat → Bool) (request : Request) (system : σ) :
    let quiet := (dispatch request).complete launch system
    let ended := (dispatch request).detached launch fails system
    let lines := Journal.lines quiet.entries
    let result := Result.ofOutcome request (launch request.invocation system).1
    ∃ shown,
      ended.entries = (Journal.lines ended.entries).map .line ++ [.notification shown] ∧
      Journal.notifications ended.entries = [shown] ∧
      Journal.lines ended.entries <+: lines ∧
      ((∀ k < lines.length, fails k = false) →
        ended.entries = .line ("Compiling: " ++ request.filePath.display) :: report result ∧
        Journal.notifications (report result) = [shown]) ∧
      ∀ k < lines.length, fails k = true → (∀ j < k, fails j = false) →
        Journal.lines ended.entries = lines.take k ∧ shown.level = .error ∧
        "Compilation failed: Compile task failed".toList <+: shown.message.toList := by
  intro quiet ended lines result
  by_cases hfailing : ∃ k, k < lines.length ∧ fails k = true
  · obtain ⟨hfirst, hfails⟩ := Nat.find_spec hfailing
    have hbefore : ∀ j < Nat.find hfailing, fails j = false := fun j hj =>
      Bool.eq_false_iff.mpr fun hj' => Nat.find_min hfailing hj ⟨Nat.lt_trans hj hfirst, hj'⟩
    have hended : ended.entries = (lines.take (Nat.find hfailing)).map .line ++ [deathNotice] :=
      detached_of_failing launch hfirst hfails hbefore
    have hlines : Journal.lines ended.entries = lines.take (Nat.find hfailing) := by
      rw [hended, Journal.lines_append, Journal.lines_map_line]
      exact List.append_nil _
    refine ⟨⟨.error, "Compilation failed: Compile task failed"⟩, ?_, ?_, ?_, ?_, ?_⟩
    · rw [hlines, hended]
      rfl
    · rw [hended, Journal.notifications_append, Journal.notifications_map_line]
      rfl
    · exact hlines ▸ List.take_prefix _ _
    · exact fun hquiet => absurd (hquiet _ hfirst) (by simp [hfails])
    · intro k hk hk' hleast
      have hfound : Nat.find hfailing = k :=
        (Nat.find_eq_iff hfailing).mpr ⟨⟨hk, hk'⟩, fun j hj hj' => by simp [hleast j hj] at hj'⟩
      exact ⟨hfound ▸ hlines, rfl, List.prefix_rfl⟩
  · have hquiet : ∀ k < lines.length, fails k = false := fun k hk =>
      Bool.eq_false_iff.mpr fun hk' => hfailing ⟨k, hk, hk'⟩
    have hended : ended = quiet := detached_of_quiet launch hquiet
    have hreported : quiet.entries =
        .line ("Compiling: " ++ request.filePath.display) :: report result :=
      congrArg Run.entries (complete_dispatch launch request system)
    obtain ⟨shown, hwhole, hshown⟩ := exists_complete_dispatch_eq launch request system
    rw [hended]
    refine ⟨shown, hwhole, ?_, List.prefix_rfl, fun _ => ⟨hreported, hshown⟩, ?_⟩
    · rw [hreported, Journal.notifications_line, hshown]
    · exact fun k hk hk' => absurd hk' (by simp [hquiet k hk])

end Task

end EditorBridge.Compile
