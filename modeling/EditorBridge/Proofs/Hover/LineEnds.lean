import EditorBridge.Hover.Info
import EditorBridge.Proofs.Hover.Token
import EditorBridge.Proofs.Text.LineEnds

/-!
# Words and line ends

A `\r` at the end of a line belongs to no token, and no cursor selects one there that it would not
select without it. So what is found at a position depends on the line only up to such characters,
and where there is no line the same is found as on an empty one: nothing. What is found is therefore
the same however the lines of a text end.

## Main definitions

* `wordIn?`: the word that is found at an index of a line.

## Main results

* `wordIn?_concat_return`: a `\r` at the end of a line changes no word that is found.
* `wordIn?_bare`: a word is found in a line as in the bare line.
* `wordAt?_congr`: texts with the same bare line at a place show the same there.
* `lookup_ignores_line_ends`: line ends change no word and no hover.
-/

namespace EditorBridge.Hover

open Text (bare bareLines withReturns)

variable {chars other : List Char} {span : Nat × Nat} {i : Nat} {source : String}
  {position : Position}

/-! ## Lines with the same tokens -/

/-- Two lines have the same word characters and the same marks at the same places. -/
structure Alike (chars other : List Char) : Prop where
  word_eq : ∀ i : Nat, wordCharAt chars i = wordCharAt other i
  mark_iff : ∀ i : Nat, chars[i]? = some '#' ↔ other[i]? = some '#'

theorem Alike.symm (halike : Alike chars other) : Alike other chars :=
  ⟨fun i => (halike.word_eq i).symm, fun i => (halike.mark_iff i).symm⟩

theorem Alike.isRun {start stop : Nat} (halike : Alike chars other)
    (hrun : IsRun chars start stop) : IsRun other start stop := by
  obtain ⟨hnonempty, hinside, hbefore, hbehind⟩ := hrun
  simp only [halike.word_eq] at hinside hbefore hbehind
  exact ⟨hnonempty, hinside, hbefore, hbehind⟩

theorem Alike.isToken (halike : Alike chars other) (htoken : IsToken chars span) :
    IsToken other span := by
  cases htoken with
  | word hrun hbare =>
    exact .word (halike.isRun hrun) fun i hi hmark => hbare i hi ((halike.mark_iff i).mpr hmark)
  | directive hmark hrun => exact .directive ((halike.mark_iff _).mp hmark) (halike.isRun hrun)

/-- In lines that are alike the same is selected. -/
theorem Alike.span?_eq (halike : Alike chars other) (i : Nat) : span? chars i = span? other i := by
  have htoken : ∀ span, IsToken chars span ↔ IsToken other span :=
    fun span => ⟨halike.isToken, halike.symm.isToken⟩
  ext span
  rw [span?_eq_some_iff, span?_eq_some_iff, Selects, Selects]
  simp only [htoken]

/-- A line with a `\r` at its end is like the line without it. -/
theorem alike_concat_return (chars : List Char) : Alike (chars ++ ['\r']) chars := by
  -- At each place both have the same, but for the `\r` where the other line ends.
  have hplace : ∀ i : Nat, (chars ++ ['\r'])[i]? = chars[i]? ∨
      (chars ++ ['\r'])[i]? = some '\r' ∧ chars[i]? = none := by
    intro i
    rcases Nat.lt_trichotomy i chars.length with hlt | rfl | hgt
    · exact .inl (List.getElem?_append_left hlt)
    · exact .inr (by simp)
    · refine .inl ?_
      rw [List.getElem?_eq_none (by rw [List.length_append]; exact hgt),
        List.getElem?_eq_none hgt.le]
  constructor
  · intro i
    rw [wordCharAt, wordCharAt]
    rcases hplace i with heq | ⟨hreturn, hnone⟩
    · rw [heq]
    · rw [hreturn, hnone]
      decide +kernel
  · intro i
    rcases hplace i with heq | ⟨hreturn, hnone⟩
    · rw [heq]
    · simp [hreturn, hnone]

/-! ## What is found in a line -/

/-- The word that a cursor at an index of a line selects, with its span. -/
def wordIn? (chars : List Char) (i : Nat) : Option (String × (Nat × Nat)) :=
  (span? chars i).map fun span => (String.ofList (slice chars span), span)

/-- Nothing is found on an empty line. -/
theorem wordIn?_nil (i : Nat) : wordIn? [] i = none := by
  cases hspan : span? [] i with
  | none => rw [wordIn?, hspan, Option.map_none]
  | some span =>
    have htoken := (span?_eq_some_iff.mp hspan).1
    exact absurd (htoken.nonempty.trans_le htoken.le_length) (Nat.not_lt_zero _)

/-- Characters behind a token do not belong to it. -/
theorem IsToken.slice_append (htoken : IsToken chars span) (rest : List Char) :
    slice (chars ++ rest) span = slice chars span := by
  have hstop := htoken.le_length
  rw [slice, slice, List.drop_append_of_le_length htoken.start_le_length,
    List.take_append_of_le_length]
  rw [List.length_drop]
  omega

/-- A `\r` at the end of a line changes no word that is found. -/
theorem wordIn?_concat_return (chars : List Char) (i : Nat) :
    wordIn? (chars ++ ['\r']) i = wordIn? chars i := by
  rw [wordIn?, (alike_concat_return chars).span?_eq, wordIn?]
  cases hspan : span? chars i with
  | none => rfl
  | some span =>
    have htoken := (span?_eq_some_iff.mp hspan).1
    rw [Option.map_some, Option.map_some, htoken.slice_append]

/-- A word is found in a line as in the bare line. -/
theorem wordIn?_bare (chars : List Char) (i : Nat) : wordIn? (bare chars) i = wordIn? chars i := by
  induction chars using List.reverseRecOn with
  | nil => rfl
  | append_singleton chars last ih =>
    rw [Text.bare_concat]
    split
    · next hreturn => rw [ih, hreturn, wordIn?_concat_return]
    · rfl

/-- The word at a position is the one that is found in its line, and where there is no line there is
none as on an empty line. -/
theorem wordAt?_eq_wordIn? (source : String) (position : Position) :
    wordAt? source position =
      if position.line = 0 ∨ position.column = 0 then none
      else (wordIn? ((Text.lines source.toList)[position.line.toNat - 1]?.getD [])
        (position.column.toNat - 1)).map fun found =>
          (found.1, ⟨position.line, found.2.1.toUInt32 + 1, found.2.2.toUInt32 + 1⟩) := by
  rw [wordAt?]
  split
  · rfl
  · cases (Text.lines source.toList)[position.line.toNat - 1]? with
    | none =>
      rw [Option.getD_none, wordIn?_nil]
      rfl
    | some chars =>
      rw [Option.getD_some, wordIn?, Option.map_map, Option.map_eq_bind]
      rfl

/-- Texts with the same bare line at a place show the same there. -/
theorem wordAt?_congr {source other : String} {position : Position}
    (hline : position.line ≠ 0 →
      (bareLines source.toList)[position.line.toNat - 1]?.getD [] =
        (bareLines other.toList)[position.line.toNat - 1]?.getD []) :
    wordAt? source position = wordAt? other position := by
  have hbare : ∀ (text : List Char) (k : Nat),
      bare ((Text.lines text)[k]?.getD []) = (bareLines text)[k]?.getD [] := by
    intro text k
    rw [bareLines, List.getElem?_map]
    cases (Text.lines text)[k]? <;> rfl
  rw [wordAt?_eq_wordIn?, wordAt?_eq_wordIn?]
  split
  · rfl
  · next hplace =>
    rw [← wordIn?_bare, hbare, hline fun hzero => hplace (.inl hzero), ← hbare, wordIn?_bare]

/-- The answer at a position depends on the word there. -/
theorem infoAt?_congr {source other : String} {position : Position}
    (hword : wordAt? source position = wordAt? other position) :
    infoAt? source position = infoAt? other position := by
  rw [infoAt?, infoAt?, hword]

/-! ## Line ends -/

/-- Two texts show the same at a position: the word there with its range, and the hover. -/
def ShowSame (source other : String) (position : Position) : Prop :=
  wordAt? source position = wordAt? other position ∧
    infoAt? source position = infoAt? other position

/-- Texts with the same bare line at a place show the same there. -/
theorem showSame_of_bareLines {source other : String} {position : Position}
    (hline : position.line ≠ 0 →
      (bareLines source.toList)[position.line.toNat - 1]?.getD [] =
        (bareLines other.toList)[position.line.toNat - 1]?.getD []) :
    ShowSame source other position := by
  have hword := wordAt?_congr hline
  exact ⟨hword, infoAt?_congr hword⟩

/-- A text shows the same at each position as with `\r\n` for each `\n` and as with another `\n` at
its end, whatever `\r` the text holds; and on its own lines it shows the same as when it goes on
behind another `\n`. -/
theorem lookup_ignores_line_ends (source : String) (position : Position) :
    ShowSame (String.ofList (withReturns source.toList)) source position ∧
    ShowSame (source ++ "\n") source position ∧
    ∀ rest : String, position.line.toNat ≤ (Text.lines source.toList).length →
      ShowSame (source ++ "\n" ++ rest) source position := by
  refine ⟨showSame_of_bareLines fun _ => ?_, showSame_of_bareLines fun _ => ?_,
    fun rest hlines => showSame_of_bareLines fun hline => ?_⟩
  · rw [String.toList_ofList, Text.bareLines_withReturns]
  · rw [String.toList_append]
    exact Text.getD_bareLines_feed _ _
  · have hindex : position.line.toNat - 1 < (Text.lines source.toList).length := by
      have hpos : position.line.toNat ≠ 0 := fun hzero => hline (UInt32.toNat_inj.mp hzero)
      omega
    rw [String.toList_append, String.toList_append, List.append_assoc]
    exact Text.getD_bareLines_append hindex rest.toList

/-- Two `\r` stand in front of a `\n`, and one at the end of the text: the directive is found on the
last line with its range, and right behind it, also where the text goes on. -/
theorem lookup_ignores_line_ends_returns :
    let source := "int\r\r\n #import\r"
    let found := some ("#import", (⟨2, 2, 9⟩ : WordRange))
    wordAt? source ⟨2, 9⟩ = found ∧ (Text.lines source.toList).length = 2 ∧
      wordAt? (String.ofList (withReturns source.toList)) ⟨2, 9⟩ = found ∧
      wordAt? (source ++ "\n") ⟨2, 9⟩ = found ∧
      wordAt? (source ++ "\n" ++ "a") ⟨2, 9⟩ = found := by
  intro source found
  have hfound : wordAt? source ⟨2, 9⟩ = found := by decide +kernel
  have hlines : (Text.lines source.toList).length = 2 := by decide +kernel
  obtain ⟨hreturns, hfeed, hmore⟩ := lookup_ignores_line_ends source ⟨2, 9⟩
  refine ⟨hfound, hlines, hreturns.1.trans hfound, hfeed.1.trans hfound,
    (hmore "a" ?_).1.trans hfound⟩
  rw [hlines]
  decide

end EditorBridge.Hover
