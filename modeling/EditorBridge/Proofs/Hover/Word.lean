import EditorBridge.Proofs.Hover.Token
import Mathlib.Algebra.Group.Nat.Defs

/-!
# The word at a position

What is looked up at a position of a text is the token that the position selects in its line: the
one that its character belongs to, or else the one that ends right before it.

## Main definitions

* `Position.Marks`: a position is that of an index in a line of a text.
* `Spells`: a word with its range is the text of a span.
* `StandsAt`, `EndsAt`: the tokens among which a position selects one.

## Main results

* `IsToken.spells_iff`: there is exactly one way to spell a token.
* `Position.Marks.wordAt?_eq_some_iff`: a word is found exactly if it spells the selected token.
* `wordAt?_lookup`: the lookup, case by case.
-/

namespace EditorBridge.Hover

/-- A position, counted from one, is that of an index in a line of a text. -/
structure Position.Marks (position : Position) (source : String) (chars : List Char) (i : Nat) :
    Prop where
  line_ne_zero : position.line ≠ 0
  line_eq : (Text.lines source.toList)[position.line.toNat - 1]? = some chars
  column_eq : position.column.toNat = i + 1

/-- A word with its range is the text of a span of a line. The columns are counted from one. -/
structure Spells (line : UInt32) (chars : List Char) (span : Nat × Nat) (word : String)
    (range : WordRange) : Prop where
  word_eq : word.toList = slice chars span
  line_eq : range.line = line
  start_eq : range.startCol.toNat = span.1 + 1
  end_eq : range.endCol.toNat = span.2 + 1

/-- A token stands at an index: the character there belongs to it. -/
def StandsAt (chars : List Char) (i : Nat) (span : Nat × Nat) : Prop :=
  IsToken chars span ∧ span.1 ≤ i ∧ i < span.2

/-- A token ends right before an index. -/
def EndsAt (chars : List Char) (i : Nat) (span : Nat × Nat) : Prop :=
  IsToken chars span ∧ span.2 = i

/-- What is looked up at a position is the text of a span of a line. -/
def Finds (source : String) (position : Position) (chars : List Char) (span : Nat × Nat) : Prop :=
  ∃ word range, wordAt? source position = some (word, range) ∧
    Spells position.line chars span word range

variable {source word : String} {position : Position} {range : WordRange} {chars : List Char}
  {span : Nat × Nat} {line : UInt32} {i n : Nat}

/-! ## Tokens and their texts -/

/-- Of two different tokens one lies behind the other. -/
theorem IsToken.disjoint {other : Nat × Nat} (htoken : IsToken chars span)
    (hother : IsToken chars other) (hne : span ≠ other) : span.2 ≤ other.1 ∨ other.2 ≤ span.1 := by
  by_contra hmeet
  have hspan := htoken.nonempty
  have hother' := hother.nonempty
  -- If neither lies behind the other, both hold the character where the later one begins.
  exact hne (htoken.eq_of_mem hother (i := max span.1 other.1) (by omega) (by omega))

/-- A token has as many characters as it takes places. -/
theorem IsToken.length_slice (htoken : IsToken chars span) :
    (slice chars span).length = span.2 - span.1 := by
  have hstop := htoken.le_length
  rw [slice, List.length_take, List.length_drop]
  omega

/-- The column of an index that is not too large. -/
theorem toNat_column (hn : n + 1 < 2 ^ 32) : (n.toUInt32 + 1).toNat = n + 1 := by
  have hindex : n.toUInt32.toNat = n := UInt32.toNat_ofNat_of_lt' (Nat.lt_of_succ_lt hn)
  rw [UInt32.toNat_add, hindex, UInt32.toNat_one, Nat.mod_eq_of_lt hn]

/-- In a line that is not too long, a token is spelled by its text and its columns, and by nothing
else. -/
theorem IsToken.spells_iff (htoken : IsToken chars span) (hshort : chars.length < 2 ^ 32 - 2) :
    Spells line chars span word range ↔
      word = String.ofList (slice chars span) ∧
        range = ⟨line, span.1.toUInt32 + 1, span.2.toUInt32 + 1⟩ := by
  have hstop := htoken.le_length
  have hlt := htoken.nonempty
  have hfirst : (span.1.toUInt32 + 1).toNat = span.1 + 1 := toNat_column (by omega)
  have hlast : (span.2.toUInt32 + 1).toNat = span.2 + 1 := toNat_column (by omega)
  constructor
  · intro hspells
    obtain ⟨hword, hline, hstart, hend⟩ := hspells
    have hstart' : range.startCol = span.1.toUInt32 + 1 :=
      UInt32.toNat_inj.mp (hstart.trans hfirst.symm)
    have hend' : range.endCol = span.2.toUInt32 + 1 :=
      UInt32.toNat_inj.mp (hend.trans hlast.symm)
    exact ⟨by rw [← hword, String.ofList_toList], by rw [← hline, ← hstart', ← hend']⟩
  · rintro ⟨rfl, rfl⟩
    exact ⟨String.toList_ofList, rfl, hfirst, hlast⟩

/-- A cursor selects the token that stands there, or if there is none the one that ends there. -/
theorem selects_iff : Selects chars i span ↔
    StandsAt chars i span ∨ EndsAt chars i span ∧ ∀ other, ¬ StandsAt chars i other := by
  simp only [Selects, StandsAt, EndsAt, not_and, and_or_left, and_assoc, eq_comm (a := i)]

/-- A cursor does not stand before the token that it selects. -/
theorem Selects.start_le (hselects : Selects chars i span) : span.1 ≤ i := by
  rcases hselects.2 with ⟨hle, -⟩ | ⟨rfl, -⟩
  · exact hle
  · exact hselects.1.nonempty.le

/-! ## The lookup -/

theorem Position.Marks.column_ne_zero (hmarks : position.Marks source chars i) :
    position.column ≠ 0 := by
  intro hzero
  have hcolumn := hmarks.column_eq
  rw [hzero] at hcolumn
  exact nomatch hcolumn

/-- What the lookup comes to at a marked index. -/
theorem Position.Marks.wordAt?_eq (hmarks : position.Marks source chars i) :
    wordAt? source position = (span? chars i).map fun span =>
      (String.ofList (slice chars span),
        ⟨position.line, span.1.toUInt32 + 1, span.2.toUInt32 + 1⟩) := by
  have hplace : ¬ (position.line = 0 ∨ position.column = 0) :=
    not_or.mpr ⟨hmarks.line_ne_zero, hmarks.column_ne_zero⟩
  rw [wordAt?, if_neg hplace, hmarks.line_eq, hmarks.column_eq, Nat.add_sub_cancel,
    Option.map_eq_bind]
  rfl

/-- Where nothing is marked, nothing is found. -/
theorem wordAt?_of_not_marks (hnone : ∀ chars i, ¬ position.Marks source chars i) :
    wordAt? source position = none := by
  rw [wordAt?]
  split
  · rfl
  · next hplace =>
    obtain ⟨hline, hcolumn⟩ := not_or.mp hplace
    cases hchars : (Text.lines source.toList)[position.line.toNat - 1]? with
    | none => rfl
    | some chars =>
      have hpos : position.column.toNat ≠ 0 := fun hzero => hcolumn (UInt32.toNat_inj.mp hzero)
      exact absurd ⟨hline, hchars, (Nat.succ_pred hpos).symm⟩ (hnone chars _)

/-- At a marked index of a line that is not too long, a word is found exactly if it spells the
selected token. -/
theorem Position.Marks.wordAt?_eq_some_iff (hmarks : position.Marks source chars i)
    (hshort : chars.length < 2 ^ 32 - 2) :
    wordAt? source position = some (word, range) ↔
      ∃ span, Selects chars i span ∧ Spells position.line chars span word range := by
  rw [hmarks.wordAt?_eq, Option.map_eq_some_iff]
  refine exists_congr fun span => ?_
  rw [span?_eq_some_iff, Prod.mk.injEq]
  refine and_congr_right fun hselects => ?_
  rw [hselects.1.spells_iff hshort, eq_comm (a := word), eq_comm (a := range)]

/-- At a marked index of a line that is not too long, the selected token is found. -/
theorem Position.Marks.finds (hmarks : position.Marks source chars i)
    (hshort : chars.length < 2 ^ 32 - 2) (hselects : Selects chars i span) :
    Finds source position chars span := by
  have hspells : Spells position.line chars span _ _ :=
    (hselects.1.spells_iff hshort).mpr ⟨rfl, rfl⟩
  exact ⟨_, _, (hmarks.wordAt?_eq_some_iff hshort).mpr ⟨span, hselects, hspells⟩, hspells⟩

/-- At a marked index that selects no token, nothing is found. -/
theorem Position.Marks.wordAt?_eq_none (hmarks : position.Marks source chars i)
    (hnone : ∀ span, ¬ Selects chars i span) : wordAt? source position = none := by
  have hspan : span? chars i = none := by
    by_contra hsome
    obtain ⟨span, hspan⟩ := Option.ne_none_iff_exists'.mp hsome
    exact hnone span (span?_eq_some_iff.mp hspan)
  rw [hmarks.wordAt?_eq, hspan, Option.map_none]

/-- What is found at a position is the token that the position selects in its line. -/
theorem exists_selects_of_wordAt?
    (hshort : ∀ chars ∈ Text.lines source.toList, chars.length < 2 ^ 32 - 2)
    (hfound : wordAt? source position = some (word, range)) :
    ∃ chars i span, position.Marks source chars i ∧ Selects chars i span ∧
      Spells position.line chars span word range := by
  by_cases hmarked : ∃ chars i, position.Marks source chars i
  · obtain ⟨chars, i, hmarks⟩ := hmarked
    obtain ⟨span, hselects, hspells⟩ :=
      (hmarks.wordAt?_eq_some_iff (hshort chars (List.mem_of_getElem? hmarks.line_eq))).mp hfound
    exact ⟨chars, i, span, hmarks, hselects, hspells⟩
  · have hnone := wordAt?_of_not_marks fun chars i hmarks => hmarked ⟨chars, i, hmarks⟩
    exact nomatch hfound.symm.trans hnone

/-- What the lookup gives at a position is the token of the position's line that its character
belongs to, or if there is none the token that ends right before it, or if there is none either,
nothing; and nothing is found where the line or the column is zero, where there is no such line, and
more than one place behind the end of the line. The tokens of a line have no character in common.
The word that is found is not empty, it has all the characters from its first column up to its last
one, and the position lies between the two. -/
theorem wordAt?_lookup (source : String) (position : Position)
    (hshort : ∀ chars ∈ Text.lines source.toList, chars.length < 2 ^ 32 - 2) :
    (∀ chars span other, IsToken chars span → IsToken chars other → span ≠ other →
      span.2 ≤ other.1 ∨ other.2 ≤ span.1) ∧
    (∀ chars i, position.Marks source chars i →
      (∀ span, StandsAt chars i span → Finds source position chars span) ∧
      ((∀ span, ¬ StandsAt chars i span) →
        ∀ span, EndsAt chars i span → Finds source position chars span) ∧
      ((∀ span, ¬ StandsAt chars i span) → (∀ span, ¬ EndsAt chars i span) →
        wordAt? source position = none) ∧
      (chars.length < i → wordAt? source position = none)) ∧
    ((∀ chars i, ¬ position.Marks source chars i) → wordAt? source position = none) ∧
    ∀ word range, wordAt? source position = some (word, range) →
      ∃ chars i span, position.Marks source chars i ∧ IsToken chars span ∧
        Spells position.line chars span word range ∧ word ≠ "" ∧
        word.length = range.endCol.toNat - range.startCol.toNat ∧
        range.startCol ≤ position.column ∧ position.column ≤ range.endCol := by
  refine ⟨fun chars span other htoken hother hne => htoken.disjoint hother hne,
    fun chars i hmarks => ?_, wordAt?_of_not_marks, fun word range hfound => ?_⟩
  · have hline := hshort chars (List.mem_of_getElem? hmarks.line_eq)
    refine ⟨fun span hstands => ?_, fun hnone span hends => ?_, fun hnone hnone' => ?_,
      fun hbehind => ?_⟩
    · exact hmarks.finds hline (selects_iff.mpr (.inl hstands))
    · exact hmarks.finds hline (selects_iff.mpr (.inr ⟨hends, hnone⟩))
    · refine hmarks.wordAt?_eq_none fun span hselects => ?_
      rcases selects_iff.mp hselects with hstands | ⟨hends, -⟩
      · exact hnone span hstands
      · exact hnone' span hends
    · refine hmarks.wordAt?_eq_none fun span hselects => ?_
      exact Nat.not_lt_of_le (hselects.le.trans hselects.1.le_length) hbehind
  -- What is found spells the selected token, so its length and columns are those of the span.
  · obtain ⟨chars, i, span, hmarks, hselects, hspells⟩ := exists_selects_of_wordAt? hshort hfound
    have hnonempty := hselects.1.nonempty
    have hlength : word.length = span.2 - span.1 := by
      rw [← String.length_toList, hspells.word_eq, hselects.1.length_slice]
    have hcolumn := hmarks.column_eq
    have hstart := hspells.start_eq
    have hend := hspells.end_eq
    refine ⟨chars, i, span, hmarks, hselects.1, hspells, ?_, by omega, ?_, ?_⟩
    · rintro rfl
      exact Nat.ne_of_gt (Nat.sub_pos_of_lt hnonempty) hlength.symm
    · have hfirst := hselects.start_le
      rw [UInt32.le_iff_toNat_le]
      omega
    · have hlast := hselects.le
      rw [UInt32.le_iff_toNat_le]
      omega

/-- Behind a letter the mark of a directive already belongs to the token that follows, and right
behind that token the position still selects it. -/
theorem wordAt?_lookup_directive :
    let source := "a#b -"
    let chars := source.toList
    (∀ chars ∈ Text.lines source.toList, chars.length < 2 ^ 32 - 2) ∧
      Position.Marks ⟨1, 2⟩ source chars 1 ∧ StandsAt chars 1 (1, 3) ∧
      Finds source ⟨1, 2⟩ chars (1, 3) ∧
      Position.Marks ⟨1, 4⟩ source chars 3 ∧ EndsAt chars 3 (1, 3) ∧
      (∀ span, ¬ StandsAt chars 3 span) ∧ Finds source ⟨1, 4⟩ chars (1, 3) := by
  intro source chars
  have hshort : ∀ chars ∈ Text.lines source.toList, chars.length < 2 ^ 32 - 2 := by decide +kernel
  have hon : Position.Marks ⟨1, 2⟩ source chars 1 := ⟨by decide, by decide +kernel, rfl⟩
  have hbehind : Position.Marks ⟨1, 4⟩ source chars 3 := ⟨by decide, by decide +kernel, rfl⟩
  have htoken : IsToken chars (1, 3) := by
    have hword : wordCharAt chars 2 = true := by decide +kernel
    have haround := (isToken_spanAround hword).1
    rwa [show spanAround chars 2 = (1, 3) by decide +kernel] at haround
  have hstands : StandsAt chars 1 (1, 3) := ⟨htoken, Nat.le_refl 1, by decide⟩
  have hnone : ∀ span, ¬ StandsAt chars 3 span := by
    intro span hstands
    have hword := exists_token_iff.mp ⟨span, hstands⟩
    revert hword
    decide +kernel
  exact ⟨hshort, hon, hstands, ((wordAt?_lookup source ⟨1, 2⟩ hshort).2.1 chars 1 hon).1 _ hstands,
    hbehind, ⟨htoken, rfl⟩, hnone,
    ((wordAt?_lookup source ⟨1, 4⟩ hshort).2.1 chars 3 hbehind).2.1 hnone _ ⟨htoken, rfl⟩⟩

end EditorBridge.Hover
