import EditorBridge.Text.Lines
import Mathlib.Data.List.Basic

/-!
# The lines of a text

A text of which every line but the last ends with `\n` or `\r\n` is taken apart into just these
lines. Only where nothing follows the last end there is no empty line behind it.

## Main definitions

* `HasLines`: a text is made of lines with such ends.

## Main results

* `HasLines.getElem?_lines_iff`: the lines that are not empty are found at their places.
-/

namespace EditorBridge.Text

/-- The text is made of the lines, of which each but the last ends with `\n` or `\r\n`. -/
inductive HasLines : List Char → List (List Char) → Prop where
  | last {line : List Char} : '\n' ∉ line → '\r' ∉ line → HasLines line [line]
  | feed {line rest : List Char} {others : List (List Char)} : '\n' ∉ line → '\r' ∉ line →
      HasLines rest others → HasLines (line ++ '\n' :: rest) (line :: others)
  | returnFeed {line rest : List Char} {others : List (List Char)} : '\n' ∉ line → '\r' ∉ line →
      HasLines rest others → HasLines (line ++ '\r' :: '\n' :: rest) (line :: others)

/-- The characters before the end of a line make up the line. -/
theorem lines_append {line ending : List Char} {others : List (List Char)} (hfeed : '\n' ∉ line)
    (hreturn : '\r' ∉ line) (hending : lines ending = [] :: others) :
    lines (line ++ ending) = line :: others := by
  induction line with
  | nil => exact hending
  | cons c line ih =>
    rw [List.mem_cons, not_or] at hfeed hreturn
    rw [List.cons_append, lines.eq_4 c _ (fun hc => hfeed.1 hc.symm)
      (fun _ hc _ => hreturn.1 hc.symm), ih hfeed.2 hreturn.2]

/-- What follows the last end is a line, unless it is empty. -/
theorem lines_last {line : List Char} (hfeed : '\n' ∉ line) (hreturn : '\r' ∉ line) :
    lines line = if line = [] then [] else [line] := by
  induction line with
  | nil => rfl
  | cons c line ih =>
    rw [List.mem_cons, not_or] at hfeed hreturn
    rw [lines.eq_4 c _ (fun hc => hfeed.1 hc.symm) (fun _ hc _ => hreturn.1 hc.symm),
      ih hfeed.2 hreturn.2, if_neg (List.cons_ne_nil c line)]
    cases line <;> rfl

namespace HasLines

variable {text : List Char} {found : List (List Char)}

/-- All lines are found, but for an empty one behind the last end. -/
theorem lines_eq_or (hlines : HasLines text found) :
    lines text = found ∨ found = lines text ++ [[]] := by
  induction hlines with
  | @last line hfeed hreturn =>
    rw [lines_last hfeed hreturn]
    split
    · next hempty => exact .inr (by rw [hempty]; rfl)
    · exact .inl rfl
  | feed hfeed hreturn _ ih =>
    rw [lines_append hfeed hreturn (lines.eq_2 _)]
    exact ih.imp (congrArg _) (congrArg _)
  | returnFeed hfeed hreturn _ ih =>
    rw [lines_append hfeed hreturn (lines.eq_3 _)]
    exact ih.imp (congrArg _) (congrArg _)

/-- The lines that are not empty are found at their places. -/
theorem getElem?_lines_iff (hlines : HasLines text found) {i : Nat} {chars : List Char}
    (hchars : chars ≠ []) : (lines text)[i]? = some chars ↔ found[i]? = some chars := by
  rcases hlines.lines_eq_or with heq | heq
  · rw [heq]
  · rw [heq, List.getElem?_append]
    split
    · rfl
    · next hlast =>
      rw [List.getElem?_eq_none (Nat.le_of_not_lt hlast)]
      refine ⟨fun hnone => (nomatch hnone), fun hlast => absurd ?_ hchars⟩
      exact (List.mem_singleton.mp (List.mem_of_getElem? hlast))

theorem length_lines_le (hlines : HasLines text found) : (lines text).length ≤ found.length := by
  rcases hlines.lines_eq_or with heq | heq
  · exact heq ▸ Nat.le_refl _
  · rw [heq, List.length_append]
    exact Nat.le_add_right _ _

theorem mem_of_mem_lines (hlines : HasLines text found) {line : List Char}
    (hline : line ∈ lines text) : line ∈ found := by
  rcases hlines.lines_eq_or with heq | heq
  · rwa [← heq]
  · rw [heq]
    exact List.mem_append_left _ hline

end HasLines

end EditorBridge.Text
