import EditorBridge.Text.Lines
import Mathlib.Data.List.DropRight

/-!
# How lines end

Lines are compared up to the `\r` characters at their ends. Then it does not matter whether a `\r`
belongs to the end of a line or to the line, a text is taken apart at each `\n` alone, and another
`\n` at the end of a text adds an empty line at most.

## Main definitions

* `bare`: a line without the `\r` characters at its end.
* `bareLines`: the lines of a text, each of them bare.
* `withReturns`: a text with `\r\n` for each `\n`.

## Main results

* `bareLines_withReturns`: the lines are the same with `\r\n` for each `\n`.
* `getD_bareLines_feed`: the lines of a text with another `\n` at its end.
* `getD_bareLines_append`: the lines of a text that goes on behind a `\n`.
-/

namespace EditorBridge.Text

/-- A line without the `\r` characters at its end. -/
def bare (line : List Char) : List Char :=
  line.rdropWhile (· = '\r')

/-- The lines of a text, each without the `\r` characters at its end. -/
def bareLines (text : List Char) : List (List Char) :=
  (lines text).map bare

/-- A text with `\r\n` for each `\n`. -/
def withReturns (text : List Char) : List Char :=
  text.flatMap fun c => if c = '\n' then ['\r', '\n'] else [c]

variable {c : Char} {text : List Char}

/-! ## Bare lines -/

@[simp]
theorem bare_nil : bare [] = [] := rfl

/-- A `\r` at the end of a line is dropped. -/
theorem bare_concat (line : List Char) (c : Char) :
    bare (line ++ [c]) = if c = '\r' then bare line else line ++ [c] := by
  rw [bare, List.rdropWhile_concat]
  simp only [decide_eq_true_eq]
  rfl

/-- A character in front of a line stands in front of the bare line, unless it is a `\r` and nothing
else is left. -/
theorem bare_cons (c : Char) (line : List Char) :
    bare (c :: line) = if bare line = [] ∧ c = '\r' then [] else c :: bare line := by
  induction line using List.reverseRecOn with
  | nil =>
    rw [← List.nil_append [c], bare_concat]
    by_cases hc : c = '\r' <;> simp [hc]
  | append_singleton line last ih =>
    rw [← List.cons_append, bare_concat, bare_concat]
    by_cases hlast : last = '\r'
    · rwa [if_pos hlast, if_pos hlast]
    · rw [if_neg hlast, if_neg hlast, if_neg (by simp)]
      rfl

/-- Lines that are bare the same are so with a character in front of them. -/
theorem bare_cons_bare (c : Char) (line : List Char) :
    bare (c :: bare line) = bare (c :: line) := by
  have hagain : bare (bare line) = bare line := List.rdropWhile_idempotent _ line
  rw [bare_cons, bare_cons, hagain]

/-! ## The bare lines of a text -/

/-- A character put in front of the first line, or as a line of its own. -/
def inFront (c : Char) : List (List Char) → List (List Char)
  | [] => [bare [c]]
  | line :: more => bare (c :: line) :: more

theorem inFront_append (c : Char) {lines more : List (List Char)} (hlines : lines ≠ []) :
    inFront c (lines ++ more) = inFront c lines ++ more := by
  cases lines with
  | nil => exact absurd rfl hlines
  | cons line lines => rfl

@[simp]
theorem bareLines_nil : bareLines [] = [] := rfl

@[simp]
theorem bareLines_feed_cons (rest : List Char) :
    bareLines ('\n' :: rest) = [] :: bareLines rest := by
  rw [bareLines, lines, List.map_cons, bare_nil, bareLines]

/-- Each character but `\n` belongs to the first line, also a `\r` in front of a `\n`. -/
theorem bareLines_cons (hc : c ≠ '\n') (rest : List Char) :
    bareLines (c :: rest) = inFront c (bareLines rest) := by
  -- A `\r` in front of a `\n` is dropped with the end of the line, and else because it is bare.
  by_cases hend : ∃ behind, c = '\r' ∧ rest = '\n' :: behind
  · obtain ⟨behind, rfl, rfl⟩ := hend
    rw [bareLines_feed_cons, bareLines, lines, List.map_cons]
    simp [inFront, bare_cons, bareLines]
  · have hnext : ∀ behind, c = '\r' → rest = '\n' :: behind → False :=
      fun behind hreturn hfeed => hend ⟨behind, hreturn, hfeed⟩
    rw [bareLines, lines.eq_4 c rest hc hnext, bareLines]
    cases lines rest with
    | nil => rfl
    | cons line more => simp [inFront, bare_cons_bare]

theorem bareLines_ne_nil (c : Char) (rest : List Char) : bareLines (c :: rest) ≠ [] := by
  by_cases hc : c = '\n'
  · simp [hc]
  · rw [bareLines_cons hc]
    cases bareLines rest <;> exact List.cons_ne_nil _ _

/-- The lines are the same with `\r\n` for each `\n`. -/
theorem bareLines_withReturns (text : List Char) :
    bareLines (withReturns text) = bareLines text := by
  induction text with
  | nil => rfl
  | cons c text ih =>
    by_cases hc : c = '\n'
    · subst hc
      have hwritten : withReturns ('\n' :: text) = '\r' :: '\n' :: withReturns text := rfl
      rw [hwritten, bareLines_cons (by decide), bareLines_feed_cons, bareLines_feed_cons, ih]
      rfl
    · have hwritten : withReturns (c :: text) = c :: withReturns text := by
        simp [withReturns, hc]
      rw [hwritten, bareLines_cons hc, bareLines_cons hc, ih]

/-- What follows a `\n` is taken apart by itself. -/
theorem bareLines_append (text rest : List Char) :
    bareLines (text ++ '\n' :: rest) = bareLines (text ++ ['\n']) ++ bareLines rest := by
  induction text with
  | nil => simp
  | cons c text ih =>
    by_cases hc : c = '\n'
    · simp [hc, ih]
    · have hne : bareLines (text ++ ['\n']) ≠ [] := by
        cases text <;> exact bareLines_ne_nil _ _
      rw [List.cons_append, List.cons_append, bareLines_cons hc, bareLines_cons hc, ih,
        inFront_append c hne]

/-- Another `\n` at the end of a text adds an empty line at most. -/
theorem bareLines_feed (text : List Char) :
    bareLines (text ++ ['\n']) = bareLines text ∨
      bareLines (text ++ ['\n']) = bareLines text ++ [[]] := by
  induction text with
  | nil => exact .inr rfl
  | cons c text ih =>
    by_cases hc : c = '\n'
    · subst hc
      rw [List.cons_append, bareLines_feed_cons, bareLines_feed_cons]
      exact ih.imp (congrArg _) (congrArg _)
    · rw [List.cons_append, bareLines_cons hc, bareLines_cons hc]
      cases text with
      | nil => exact .inl rfl
      | cons next text =>
        rw [← inFront_append c (bareLines_ne_nil next text)]
        exact ih.imp (congrArg _) (congrArg _)

/-- With another `\n` at the end of a text, each line is the same, if an empty line is none. -/
theorem getD_bareLines_feed (text : List Char) (k : Nat) :
    (bareLines (text ++ ['\n']))[k]?.getD [] = (bareLines text)[k]?.getD [] := by
  rcases bareLines_feed text with heq | heq
  · rw [heq]
  · rw [heq, List.getElem?_append]
    split
    · rfl
    · next hlast =>
      rw [List.getElem?_eq_none (Nat.le_of_not_lt hlast), List.getElem?_singleton]
      split <;> rfl

/-- Where a text goes on behind a `\n`, its own lines are the same. -/
theorem getD_bareLines_append {k : Nat} (hk : k < (lines text).length) (rest : List Char) :
    (bareLines (text ++ '\n' :: rest))[k]?.getD [] = (bareLines text)[k]?.getD [] := by
  have hlength : k < (bareLines (text ++ ['\n'])).length := by
    have hbare : (bareLines text).length = (lines text).length := List.length_map _
    rcases bareLines_feed text with heq | heq
    · rwa [heq, hbare]
    · rw [heq, List.length_append, hbare]
      exact Nat.lt_add_right _ hk
  rw [bareLines_append, List.getElem?_append_left hlength, getD_bareLines_feed]

end EditorBridge.Text
