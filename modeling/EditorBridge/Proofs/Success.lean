/-!
# When computations succeed

A computation that may fail succeeds exactly if each of its steps does. These facts take a
successful computation apart without looking at its errors.
-/

namespace EditorBridge

variable {ε ε' α β : Type}

/-- Two steps succeed one after the other. -/
theorem bind_eq_ok_iff {first : Except ε α} {next : α → Except ε β} {b : β} :
    (first >>= next) = .ok b ↔ ∃ a, first = .ok a ∧ next a = .ok b := by
  cases first with
  | error cause => simp [bind, Except.bind]
  | ok a => simp [bind, Except.bind]

/-- The fault of two steps is that of the first, or that of the second if the first succeeds. -/
theorem bind_eq_error_iff {first : Except ε α} {next : α → Except ε β} {cause : ε} :
    (first >>= next) = .error cause ↔
      first = .error cause ∨ ∃ a, first = .ok a ∧ next a = .error cause := by
  cases first with
  | error fault => simp [bind, Except.bind]
  | ok a => simp [bind, Except.bind]

/-- Other words for an error do not make a success. -/
theorem mapError_eq_ok_iff {computation : Except ε α} {f : ε → ε'} {a : α} :
    computation.mapError f = .ok a ↔ computation = .ok a := by
  cases computation with
  | error cause => exact ⟨fun h => (nomatch h), fun h => (nomatch h)⟩
  | ok value =>
    -- The two sides are successes of computations with different errors.
    exact ⟨fun h => congrArg Except.ok (Except.ok.inj h),
      fun h => congrArg Except.ok (Except.ok.inj h)⟩

end EditorBridge
