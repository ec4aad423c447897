import EditorBridge.Proofs.Compile.Alone

/-!
# Reading reports back

The lines that report a compile are an account of it, and they can be read back. The first line
begins with `Error: ` for a failure and with the mark of an output for a success, and what stands
behind a mark is taken as it is. So whatever a compiler writes, even if it looks like a report
itself, a failure is never reported like a success, and two results are reported alike only if they
have the same account.

## Main definitions

* `Account`, `Result.account`: what a report tells about a compile.
* `Account.lines`, `Account.ofLines?`: an account as lines, and the account that lines give.

## Main results

* `Account.ofLines?_lines`: an account is read back from its lines.
* `lines_report`: the lines of a report are those of the account of its result.
* `account_eq_iff`: when two results have the same account.
* `report_read_back`: when two results are reported alike.
-/

namespace EditorBridge.Compile

/-- What a report tells about a compile. -/
inductive Account where
  /-- It succeeded and wrote this to its output and its error output. -/
  | succeeded (stdout stderr : String)
  /-- It failed for a reason and wrote this to its error output. -/
  | failed (reason stderr : String)
deriving DecidableEq, Repr

/-- What the report of a result tells. The output of a compile that failed is not told, and neither
is a reason for the failure of one that succeeded. -/
def Result.account (result : Result) : Account :=
  match result.failure? with
  | some reason => .failed reason result.stderr
  | none => .succeeded result.stdout result.stderr

/-! ## Marked lines -/

/-- What stands in a line behind a mark. -/
def behindMark? (mark line : String) : Option String :=
  if mark.toList.isPrefixOf line.toList then
    some (String.ofList (line.toList.drop mark.toList.length))
  else none

@[simp]
theorem behindMark?_append (mark text : String) : behindMark? mark (mark ++ text) = some text := by
  simp [behindMark?]

/-- No output is marked as an error. -/
theorem behindMark?_error (text : String) :
    behindMark? "Error: " ("stdout: " ++ text) = none ∧
      behindMark? "Error: " ("stderr: " ++ text) = none := by
  constructor
  · simp [behindMark?]
  · simp [behindMark?]

theorem ne_append_of_behindMark?_eq_none {mark line : String}
    (hmark : behindMark? mark line = none) (text : String) : line ≠ mark ++ text := by
  rintro rfl
  rw [behindMark?_append] at hmark
  exact nomatch hmark

/-- The line for an error output, unless it is empty. -/
def stderrTexts (stderr : String) : List String :=
  if stderr = "" then [] else ["stderr: " ++ stderr]

/-- The error output that is shown by a line, or by none if it is empty. -/
def stderrOf? : List String → Option String
  | [] => some ""
  | [line] => behindMark? "stderr: " line
  | _ => none

theorem stderrOf?_stderrTexts (stderr : String) : stderrOf? (stderrTexts stderr) = some stderr := by
  unfold stderrTexts
  split
  · next hempty => rw [hempty, stderrOf?]
  · exact behindMark?_append "stderr: " stderr

/-! ## Accounts as lines -/

namespace Account

/-- The lines of an account: the failure and then the error output, or both outputs and then the
message of a success. -/
def lines : Account → List String
  | .succeeded stdout stderr => stderrTexts stderr ++ ["stdout: " ++ stdout, successMessage]
  | .failed reason stderr => ("Error: " ++ reason) :: stderrTexts stderr

/-- The account that lines give. -/
def ofLines? : List String → Option Account
  | [] => none
  | first :: rest =>
    match behindMark? "Error: " first with
    | some reason => (stderrOf? rest).map (.failed reason)
    | none =>
      match rest with
      | [_] => (behindMark? "stdout: " first).map (.succeeded · "")
      | [output, _] => do
        return .succeeded (← behindMark? "stdout: " output) (← behindMark? "stderr: " first)
      | _ => none

/-- An account is read back from its lines. -/
theorem ofLines?_lines (account : Account) : ofLines? account.lines = some account := by
  cases account with
  | failed reason stderr =>
    simp only [lines, ofLines?, behindMark?_append, stderrOf?_stderrTexts, Option.map_some]
  | succeeded stdout stderr =>
    -- How many lines there are depends on the error output, and so does what the first one is.
    by_cases hstderr : stderr = ""
    · subst hstderr
      have hlines : (succeeded stdout "").lines = ["stdout: " ++ stdout, successMessage] := rfl
      simp only [hlines, ofLines?, (behindMark?_error stdout).1, behindMark?_append,
        Option.map_some]
    · have hlines : (succeeded stdout stderr).lines =
          ["stderr: " ++ stderr, "stdout: " ++ stdout, successMessage] := by
        rw [lines, stderrTexts, if_neg hstderr]
        rfl
      simp only [hlines, ofLines?, (behindMark?_error stderr).2, behindMark?_append]
      rfl

theorem lines_injective : Function.Injective lines := by
  intro first second hlines
  -- An account that can be read back is told by its lines.
  have hread := ofLines?_lines first
  rw [hlines, ofLines?_lines second] at hread
  exact (Option.some.inj hread).symm

/-- The message of a success is a line of every account of a success, and of no other one. -/
theorem successMessage_mem_lines_iff (account : Account) :
    successMessage ∈ account.lines ↔ ∃ stdout stderr, account = .succeeded stdout stderr := by
  cases account with
  | succeeded stdout stderr => simp [lines]
  | failed reason stderr =>
    refine iff_of_false ?_ (by simp)
    rw [lines, List.mem_cons, not_or, stderrTexts]
    constructor
    · exact ne_append_of_behindMark?_eq_none (by decide +kernel) reason
    · split
      · exact List.not_mem_nil
      · rw [List.mem_singleton]
        exact ne_append_of_behindMark?_eq_none (by decide +kernel) stderr

end Account

/-! ## Reports -/

/-- The lines of a report are those of the account of its result. -/
theorem lines_report (result : Result) :
    Journal.lines (report result) = result.account.lines := by
  have hstderr : Journal.lines (stderrLines result) = stderrTexts result.stderr := by
    simp only [stderrLines, stderrTexts, String.isEmpty_iff]
    split <;> rfl
  unfold report Result.account
  cases result.failure? with
  | some reason => simp [hstderr, Account.lines]
  | none => simp [hstderr, Account.lines]

/-- Two results have the same account if both succeeded with the same outputs, or both failed for
the same reason and with the same error output. -/
theorem account_eq_iff {first second : Result} :
    first.account = second.account ↔
      first.exitSucceeded = second.exitSucceeded ∧ first.stderr = second.stderr ∧
        (first.exitSucceeded = true → first.stdout = second.stdout) ∧
        (first.exitSucceeded = false → first.failure? = second.failure?) := by
  unfold Result.account Result.failure?
  cases first.exitSucceeded <;> cases second.exitSucceeded <;> simp [and_comm]

theorem exists_account_eq_succeeded_iff (result : Result) :
    (∃ stdout stderr, result.account = .succeeded stdout stderr) ↔
      result.exitSucceeded = true := by
  unfold Result.account Result.failure?
  cases result.exitSucceeded <;> simp

/-- The report of a compile can be read back, whatever strings its result holds. The lines of two
reports are the same exactly if both compiles succeeded or both failed, their error outputs are the
same, the outputs are the same where they succeeded, and the failures are the same where they
failed. So a failure is never reported like a success. The message of a success is a line of the
report exactly if the compile succeeded, and then, and only then, the one notification is good
news. -/
theorem report_read_back (first second : Result) :
    Account.ofLines? (Journal.lines (report first)) = some first.account ∧
    (Journal.lines (report first) = Journal.lines (report second) ↔
      first.exitSucceeded = second.exitSucceeded ∧ first.stderr = second.stderr ∧
        (first.exitSucceeded = true → first.stdout = second.stdout) ∧
        (first.exitSucceeded = false → first.failure? = second.failure?)) ∧
    (successMessage ∈ Journal.lines (report first) ↔ first.exitSucceeded = true) ∧
    ∃ shown, Journal.notifications (report first) = [shown] ∧
      (shown.level = .info ↔ first.exitSucceeded = true) := by
  rw [lines_report, lines_report]
  refine ⟨Account.ofLines?_lines first.account, ?_, ?_, ?_⟩
  · rw [← account_eq_iff]
    exact Account.lines_injective.eq_iff
  · rw [Account.successMessage_mem_lines_iff, exists_account_eq_succeeded_iff]
  · obtain ⟨lines, shown, hreport, hlevel⟩ := exists_report_eq first
    exact ⟨shown, by simp [hreport], hlevel⟩

example : Journal.lines (report ⟨false, "stdout: ", successMessage, some "stdout: "⟩) =
    ["Error: stdout: ", "stderr: Compilation completed successfully!"] := by
  decide +kernel

end EditorBridge.Compile
