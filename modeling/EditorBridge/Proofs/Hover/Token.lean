import EditorBridge.Hover.Word
import Mathlib.Data.List.TakeWhile

/-!
# The tokens of a line

A token of a line is a maximal run of word characters, together with the `#` directly before it if
there is one. Two tokens have no character in common, and a cursor selects the token it stands on,
or else the one that ends right before it.

## Main definitions

* `IsRun`: a maximal run of word characters.
* `IsToken`: the span of a token.
* `Selects`: the token that a cursor selects.

## Main results

* `IsToken.eq_of_mem`: two tokens with a common character are the same.
* `span?_eq_some_iff`: the span that is looked up is that of the selected token.
-/

namespace EditorBridge.Hover

section TakeWhile

variable {α : Type} {p : α → Bool}

/-- What is taken from a list has the property. -/
theorem any_getElem?_of_lt_takeWhile (list : List α) {i : Nat}
    (hi : i < (list.takeWhile p).length) : list[i]?.any p = true := by
  induction list generalizing i with
  | nil => exact absurd hi (Nat.not_lt_zero i)
  | cons a rest ih =>
    cases ha : p a with
    | false => simp [ha] at hi
    | true =>
      rw [List.takeWhile_cons_of_pos ha, List.length_cons] at hi
      cases i with
      | zero => simpa using ha
      | succ i => simpa using ih (Nat.lt_of_succ_lt_succ hi)

/-- What stands behind all that is taken does not have the property. -/
theorem any_getElem?_length_takeWhile (list : List α) :
    list[(list.takeWhile p).length]?.any p = false := by
  induction list with
  | nil => rfl
  | cons a rest ih =>
    cases ha : p a with
    | false => simp [ha]
    | true => simpa [ha] using ih

end TakeWhile

variable {chars : List Char} {i j start stop : Nat} {span : Nat × Nat}

/-- A maximal run of word characters. -/
structure IsRun (chars : List Char) (start stop : Nat) : Prop where
  nonempty : start < stop
  inside : ∀ i, start ≤ i → i < stop → wordCharAt chars i = true
  before : ∀ i, i + 1 = start → wordCharAt chars i = false
  behind : wordCharAt chars stop = false

/-- The span of a token: a maximal run of word characters, extended one place to the left where a
`#` stands directly before it. -/
inductive IsToken (chars : List Char) : Nat × Nat → Prop where
  | word {start stop : Nat} : IsRun chars start stop → (∀ i, i + 1 = start → chars[i]? ≠ some '#') →
      IsToken chars (start, stop)
  | directive {mark stop : Nat} : chars[mark]? = some '#' → IsRun chars (mark + 1) stop →
      IsToken chars (mark, stop)

/-- The token that a cursor at an index selects: the one that it stands on, or if there is none the
one that ends right before it. -/
def Selects (chars : List Char) (i : Nat) (span : Nat × Nat) : Prop :=
  IsToken chars span ∧
    (span.1 ≤ i ∧ i < span.2 ∨
      i = span.2 ∧ ∀ other, IsToken chars other → ¬ (other.1 ≤ i ∧ i < other.2))

/-! ## Runs -/

theorem lt_length_of_wordCharAt (hword : wordCharAt chars i = true) : i < chars.length := by
  by_contra hout
  rw [wordCharAt, List.getElem?_eq_none (Nat.le_of_not_lt hout)] at hword
  exact nomatch hword

/-- The mark of a directive is no word character. -/
theorem wordCharAt_of_mark (hmark : chars[i]? = some '#') : wordCharAt chars i = false := by
  rw [wordCharAt, hmark]
  decide +kernel

/-- A run does not begin before another one that reaches it. -/
theorem IsRun.start_le {start' stop' : Nat} (hrun : IsRun chars start stop)
    (hrun' : IsRun chars start' stop') (hi : i < stop) (hi' : start' ≤ i) : start' ≤ start := by
  by_contra hlt
  have hinside := hrun.inside (start' - 1) (by omega) (by omega)
  have hbefore := hrun'.before (start' - 1) (by omega)
  exact nomatch hinside.symm.trans hbefore

/-- A run does not end behind another one that it reaches. -/
theorem IsRun.stop_le {start' stop' : Nat} (hrun : IsRun chars start stop)
    (hrun' : IsRun chars start' stop') (hi : start ≤ i) (hi' : i < stop') : stop ≤ stop' := by
  by_contra hlt
  have hinside := hrun.inside stop' (by omega) (by omega)
  exact nomatch hinside.symm.trans hrun'.behind

/-- Two runs with a common character are the same. -/
theorem IsRun.eq_of_mem {start' stop' : Nat} (hrun : IsRun chars start stop)
    (hrun' : IsRun chars start' stop') (hi : start ≤ i ∧ i < stop) (hi' : start' ≤ i ∧ i < stop') :
    start = start' ∧ stop = stop' :=
  ⟨Nat.le_antisymm (hrun'.start_le hrun hi'.2 hi.1) (hrun.start_le hrun' hi.2 hi'.1),
    Nat.le_antisymm (hrun.stop_le hrun' hi.1 hi'.2) (hrun'.stop_le hrun hi'.1 hi.2)⟩

/-- Looking back from an index, the characters before it are read from right to left. -/
theorem getElem?_reverse_take {k : Nat} (hj : j ≤ chars.length) (hk : k < j) :
    (chars.take j).reverse[k]? = chars[j - 1 - k]? := by
  have htaken : (chars.take j).length = j := by rw [List.length_take, Nat.min_eq_left hj]
  rw [List.getElem?_reverse (by omega), htaken, List.getElem?_take_of_lt (by omega)]

/-- A word character is the first one of what is found by going ahead from it. -/
theorem length_ahead_pos (hword : wordCharAt chars j = true) :
    0 < ((chars.drop j).takeWhile isWordChar).length := by
  by_contra hzero
  have hfirst := any_getElem?_length_takeWhile (p := isWordChar) (chars.drop j)
  rw [Nat.eq_zero_of_not_pos hzero, List.getElem?_drop, Nat.add_zero] at hfirst
  exact nomatch hword.symm.trans hfirst

/-- The run around a word character, as it is found by going back and ahead from there. -/
theorem isRun_around (hword : wordCharAt chars j = true) :
    IsRun chars (j - ((chars.take j).reverse.takeWhile isWordChar).length)
      (j + ((chars.drop j).takeWhile isWordChar).length) := by
  have hlength : j ≤ chars.length := Nat.le_of_lt (lt_length_of_wordCharAt hword)
  have hahead := length_ahead_pos hword
  refine ⟨by omega, fun i hstart hstop => ?_, fun i hi => ?_, ?_⟩
  -- What stands before `j` was found on the way back, and all else on the way ahead.
  · rcases Nat.lt_or_ge i j with hij | hij
    · have hall := any_getElem?_of_lt_takeWhile (p := isWordChar) (i := j - 1 - i)
        (chars.take j).reverse (by omega)
      rwa [getElem?_reverse_take hlength (by omega),
        show j - 1 - (j - 1 - i) = i by omega] at hall
    · have hall := any_getElem?_of_lt_takeWhile (p := isWordChar) (i := i - j)
        (chars.drop j) (by omega)
      rwa [List.getElem?_drop, show j + (i - j) = i by omega] at hall
  · have hnot := any_getElem?_length_takeWhile (p := isWordChar) (chars.take j).reverse
    rwa [getElem?_reverse_take hlength (by omega),
      show j - 1 - ((chars.take j).reverse.takeWhile isWordChar).length = i by omega] at hnot
  · have hnot := any_getElem?_length_takeWhile (p := isWordChar) (chars.drop j)
    rwa [List.getElem?_drop] at hnot

/-- The span around a character of a run is that of the run and of the mark before it. -/
theorem IsRun.spanAround_eq (hrun : IsRun chars start stop) (hstart : start ≤ j)
    (hstop : j < stop) :
    spanAround chars j =
      if 0 < start ∧ chars[start - 1]? = some '#' then (start - 1, stop) else (start, stop) := by
  have hword := hrun.inside j hstart hstop
  have hahead := length_ahead_pos hword
  obtain ⟨hfirst, hlast⟩ :=
    (isRun_around hword).eq_of_mem (i := j) hrun ⟨by omega, by omega⟩ ⟨hstart, hstop⟩
  simp only [spanAround, hfirst, hlast]

/-! ## Tokens -/

theorem IsToken.nonempty (htoken : IsToken chars span) : span.1 < span.2 := by
  cases htoken with
  | word hrun => exact hrun.nonempty
  | directive _ hrun => exact Nat.lt_of_succ_lt hrun.nonempty

theorem IsToken.wordCharAt_last (htoken : IsToken chars span) :
    wordCharAt chars (span.2 - 1) = true := by
  cases htoken with
  | word hrun | directive _ hrun =>
    have hlt := hrun.nonempty
    exact hrun.inside _ (by omega) (by omega)

theorem IsToken.le_length (htoken : IsToken chars span) : span.2 ≤ chars.length := by
  have hlast := lt_length_of_wordCharAt htoken.wordCharAt_last
  omega

theorem IsToken.start_le_length (htoken : IsToken chars span) : span.1 ≤ chars.length :=
  htoken.nonempty.le.trans htoken.le_length

/-- A token is the span around each of its word characters. -/
theorem IsToken.eq_spanAround (htoken : IsToken chars span) (hword : wordCharAt chars j = true)
    (hfirst : span.1 ≤ j) (hlast : j < span.2) : span = spanAround chars j := by
  cases htoken with
  | @word start stop hrun hbare =>
    rw [hrun.spanAround_eq hfirst hlast, if_neg]
    rintro ⟨hpos, hmark⟩
    exact hbare (start - 1) (Nat.sub_add_cancel hpos) hmark
  | @directive mark stop hmark hrun =>
    have hne : mark ≠ j := by
      rintro rfl
      exact nomatch hword.symm.trans (wordCharAt_of_mark hmark)
    rw [hrun.spanAround_eq (Nat.lt_of_le_of_ne hfirst hne) hlast,
      if_pos ⟨Nat.succ_pos mark, hmark⟩]
    rfl

/-- A character of a token is a word character, or it is the mark in front of one. -/
theorem IsToken.wordCharAt_or (htoken : IsToken chars span) (hfirst : span.1 ≤ i)
    (hlast : i < span.2) :
    wordCharAt chars i = true ∨
      chars[i]? = some '#' ∧ wordCharAt chars (i + 1) = true ∧ i + 1 < span.2 := by
  cases htoken with
  | word hrun => exact .inl (hrun.inside i hfirst hlast)
  | @directive mark stop hmark hrun =>
    rcases Nat.eq_or_lt_of_le hfirst with rfl | hlt
    · exact .inr ⟨hmark, hrun.inside _ (Nat.le_refl _) hrun.nonempty, hrun.nonempty⟩
    · exact .inl (hrun.inside i hlt hlast)

/-- Two tokens with a common character are the same. -/
theorem IsToken.eq_of_mem {other : Nat × Nat} (htoken : IsToken chars span)
    (hother : IsToken chars other) (hi : span.1 ≤ i ∧ i < span.2)
    (hi' : other.1 ≤ i ∧ i < other.2) : span = other := by
  rcases htoken.wordCharAt_or hi.1 hi.2 with hword | ⟨hmark, hword, hlast⟩
  · exact (htoken.eq_spanAround hword hi.1 hi.2).trans
      (hother.eq_spanAround hword hi'.1 hi'.2).symm
  -- If they share a mark, they share the word character behind it.
  · rcases hother.wordCharAt_or hi'.1 hi'.2 with hword' | ⟨-, -, hlast'⟩
    · exact nomatch hword'.symm.trans (wordCharAt_of_mark hmark)
    · exact (htoken.eq_spanAround hword (Nat.le_succ_of_le hi.1) hlast).trans
        (hother.eq_spanAround hword (Nat.le_succ_of_le hi'.1) hlast').symm

/-- Around a word character there is a token. -/
theorem isToken_spanAround (hword : wordCharAt chars j = true) :
    IsToken chars (spanAround chars j) ∧ (spanAround chars j).1 ≤ j ∧
      j < (spanAround chars j).2 := by
  have hrun := isRun_around hword
  have hahead := length_ahead_pos hword
  rw [hrun.spanAround_eq (by omega) (by omega)]
  split
  · next hmark =>
    obtain ⟨hpos, hmark⟩ := hmark
    refine ⟨.directive hmark ?_, by dsimp only; omega, by dsimp only; omega⟩
    rwa [Nat.sub_add_cancel hpos]
  · next hbare =>
    refine ⟨.word hrun fun i hi hmark => hbare ?_, by dsimp only; omega, by dsimp only; omega⟩
    rw [← hi]
    exact ⟨Nat.succ_pos i, hmark⟩

/-- A mark directly before a word character begins the token around that character. -/
theorem spanAround_of_mark (hmark : chars[i]? = some '#')
    (hword : wordCharAt chars (i + 1) = true) : (spanAround chars (i + 1)).1 = i := by
  obtain ⟨htoken, hfirst, hlast⟩ := isToken_spanAround hword
  have hnot : wordCharAt chars i = false := wordCharAt_of_mark hmark
  generalize spanAround chars (i + 1) = span at htoken hfirst hlast
  -- The mark is no word character, so the run of the token begins right behind it.
  cases htoken with
  | @word start stop hrun hbare =>
    rcases Nat.eq_or_lt_of_le hfirst with hstart | hlt
    · exact absurd hmark (hbare i hstart.symm)
    · have hword' := hrun.inside i (Nat.le_of_lt_succ hlt) (Nat.lt_of_succ_lt hlast)
      exact nomatch hword'.symm.trans hnot
  | @directive mark stop hmark' hrun =>
    have hne : mark ≠ i + 1 := by
      rintro rfl
      exact nomatch hword.symm.trans (wordCharAt_of_mark hmark')
    have hnlt : ¬ mark < i := fun hlt =>
      nomatch (hrun.inside i hlt (Nat.lt_of_succ_lt hlast)).symm.trans hnot
    exact Nat.le_antisymm (by dsimp only at hfirst ⊢; omega) (Nat.le_of_not_lt hnlt)

/-! ## Selected tokens -/

/-- A token stands at every word character, and at every mark before one. -/
theorem exists_token_iff :
    (∃ span, IsToken chars span ∧ span.1 ≤ i ∧ i < span.2) ↔
      wordCharAt chars i = true ∨ chars[i]? = some '#' ∧ wordCharAt chars (i + 1) = true := by
  constructor
  · rintro ⟨span, htoken, hfirst, hlast⟩
    exact (htoken.wordCharAt_or hfirst hlast).imp_right fun ⟨hmark, hword, _⟩ => ⟨hmark, hword⟩
  · rintro (hword | ⟨hmark, hword⟩)
    · exact ⟨_, isToken_spanAround hword⟩
    · obtain ⟨htoken, -, hlast⟩ := isToken_spanAround hword
      exact ⟨_, htoken, (spanAround_of_mark hmark hword).le, Nat.lt_of_succ_lt hlast⟩

/-- A cursor does not stand behind the place where the token that it selects ends. -/
theorem Selects.le (hselects : Selects chars i span) : i ≤ span.2 := by
  rcases hselects.2 with ⟨-, hlt⟩ | ⟨hend, -⟩
  · exact hlt.le
  · exact hend.le

/-- A cursor selects at most one token. -/
theorem Selects.eq {other : Nat × Nat} (hspan : Selects chars i span)
    (hother : Selects chars i other) : span = other := by
  obtain ⟨htoken, hon | ⟨hend, hnone⟩⟩ := hspan <;>
    obtain ⟨htoken', hon' | ⟨hend', hnone'⟩⟩ := hother
  · exact htoken.eq_of_mem htoken' hon hon'
  · exact absurd hon (hnone' _ htoken)
  · exact absurd hon' (hnone _ htoken')
  -- Both end at the cursor, so both hold the character before it.
  · have hlt := htoken.nonempty
    have hlt' := htoken'.nonempty
    exact htoken.eq_of_mem htoken' (i := i - 1) (by omega) (by omega)

/-- The token that is looked up is the selected one. -/
theorem selects_of_span? (hspan : span? chars i = some span) : Selects chars i span := by
  simp only [span?, anchor?] at hspan
  split at hspan
  · next hmark =>
    obtain rfl := Option.some.inj hspan
    obtain ⟨htoken, -, hlast⟩ := isToken_spanAround hmark.2
    exact ⟨htoken, .inl ⟨(spanAround_of_mark hmark.1 hmark.2).le, Nat.lt_of_succ_lt hlast⟩⟩
  · next hmark =>
    split at hspan
    · next hword =>
      obtain rfl := Option.some.inj hspan
      obtain ⟨htoken, hon⟩ := isToken_spanAround hword
      exact ⟨htoken, .inl hon⟩
    · next hword =>
      split at hspan
      · next hbefore =>
        obtain rfl := Option.some.inj hspan
        obtain ⟨htoken, hfirst, hlast⟩ := isToken_spanAround hbefore.2
        -- No token stands at the cursor, so the one before it ends there.
        have hnone : ∀ other, IsToken chars other → ¬ (other.1 ≤ i ∧ i < other.2) :=
          fun other hother hon => (exists_token_iff.mp ⟨other, hother, hon⟩).elim hword hmark
        have hend := hnone _ htoken
        exact ⟨htoken, .inr ⟨by omega, hnone⟩⟩
      · exact nomatch hspan

/-- Where a token is selected, one is looked up. -/
theorem isSome_span?_of_selects (hselects : Selects chars i span) : (span? chars i).isSome := by
  obtain ⟨htoken, hon | ⟨rfl, -⟩⟩ := hselects
  · simp only [span?, anchor?]
    rcases exists_token_iff.mp ⟨span, htoken, hon⟩ with hword | hmark
    · split <;> rfl
    · simp only [if_pos hmark]
      rfl
  · have hlast := htoken.wordCharAt_last
    have hlt := htoken.nonempty
    simp only [span?, anchor?]
    split
    · rfl
    · split
      · rfl
      · rw [if_pos ⟨by omega, hlast⟩]
        rfl

/-- The span that is looked up for a cursor is that of the token which it selects. -/
theorem span?_eq_some_iff : span? chars i = some span ↔ Selects chars i span := by
  constructor
  · exact selects_of_span?
  · intro hselects
    obtain ⟨other, hother⟩ := Option.isSome_iff_exists.mp (isSome_span?_of_selects hselects)
    rw [hother, (selects_of_span? hother).eq hselects]

/-- Nothing is selected behind the place that follows a line. -/
theorem span?_eq_none_of_lt (hlt : chars.length < i) : span? chars i = none := by
  by_contra hsome
  obtain ⟨span, hspan⟩ := Option.ne_none_iff_exists'.mp hsome
  have hselects := span?_eq_some_iff.mp hspan
  exact Nat.not_lt_of_le (hselects.le.trans hselects.1.le_length) hlt

end EditorBridge.Hover
