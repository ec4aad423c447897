import EditorBridge.Proofs.Hover.Token
import EditorBridge.Hover.Keyword
import Mathlib.Order.Basic

/-!
# Places counted in units

An editor counts the places of a line in units, of which a character may take up more than one. In
UTF-16 the characters of the basic plane take up one unit and all others two. As long as no wide
character stands before the end of a token, a place selects the token in units exactly if it does in
characters.

## Main definitions

* `Text.utf16Size`: the units of a character in UTF-16.
* `offset`: the place of the character at an index.
* `SelectsIn`: the token that a place selects.
* `IsKeyword`: the span of a token that has a description.

## Main results

* `selectsIn_offset_iff`: the place of a character selects what the character selects.
* `selectsIn_iff_of_narrow`: before wide characters, places are selected as indices are.
-/

namespace EditorBridge

/-- How many units a character takes up in UTF-16. -/
def Text.utf16Size (c : Char) : Nat :=
  if c.toNat < 0x10000 then 1 else 2

theorem Text.utf16Size_pos (c : Char) : 0 < utf16Size c := by
  unfold utf16Size
  split <;> decide

namespace Hover

/-- The place of the character at an index, where characters take up units of a size. -/
def offset (size : Char → Nat) (chars : List Char) (i : Nat) : Nat :=
  (chars.take i).foldr (fun c units => size c + units) 0

/-- The token that a place selects, where characters take up units of a size: the one that it lies
on, or if there is none the one that it lies directly behind. -/
def SelectsIn (size : Char → Nat) (chars : List Char) (place : Nat) (span : Nat × Nat) : Prop :=
  IsToken chars span ∧
    (offset size chars span.1 ≤ place ∧ place < offset size chars span.2 ∨
      place = offset size chars span.2 ∧ ∀ other, IsToken chars other →
        ¬ (offset size chars other.1 ≤ place ∧ place < offset size chars other.2))

/-- The span of a token that has a description. -/
def IsKeyword (chars : List Char) (span : Nat × Nat) : Prop :=
  IsToken chars span ∧ (describe? (String.ofList (slice chars span))).isSome = true

variable {size : Char → Nat} {chars : List Char} {i j place : Nat} {span : Nat × Nat}

/-! ## Offsets -/

@[simp]
theorem offset_zero (size : Char → Nat) (chars : List Char) : offset size chars 0 = 0 := rfl

@[simp]
theorem offset_cons_succ (size : Char → Nat) (c : Char) (chars : List Char) (i : Nat) :
    offset size (c :: chars) (i + 1) = size c + offset size chars i := by
  simp [offset]

/-- A place is at least as large as the index, if no character takes up nothing. -/
theorem le_offset (hsize : ∀ c, 0 < size c) (hi : i ≤ chars.length) : i ≤ offset size chars i := by
  induction chars generalizing i with
  | nil => exact (Nat.le_zero.mp hi).le.trans (Nat.zero_le _)
  | cons first rest ih =>
    cases i with
    | zero => exact Nat.zero_le _
    | succ i =>
      have hfirst := hsize first
      have hrest := ih (Nat.le_of_succ_le_succ hi)
      rw [offset_cons_succ]
      omega

theorem offset_lt_offset (hsize : ∀ c, 0 < size c) (hij : i < j) (hj : j ≤ chars.length) :
    offset size chars i < offset size chars j := by
  induction chars generalizing i j with
  | nil => exact absurd (hij.trans_le hj) (Nat.not_lt_zero i)
  | cons first rest ih =>
    obtain ⟨j, rfl⟩ := Nat.exists_eq_add_one_of_ne_zero (Nat.ne_zero_of_lt hij)
    rw [offset_cons_succ]
    cases i with
    | zero =>
      have hfirst := hsize first
      rw [offset_zero]
      omega
    | succ i =>
      rw [offset_cons_succ]
      exact Nat.add_lt_add_left (ih (Nat.lt_of_succ_lt_succ hij) (Nat.le_of_succ_le_succ hj)) _

theorem offset_lt_offset_iff (hsize : ∀ c, 0 < size c) (hi : i ≤ chars.length)
    (hj : j ≤ chars.length) : offset size chars i < offset size chars j ↔ i < j := by
  constructor
  · intro hlt
    by_contra hge
    rcases Nat.eq_or_lt_of_le (Nat.le_of_not_lt hge) with rfl | hji
    · exact Nat.lt_irrefl _ hlt
    · exact Nat.lt_asymm hlt (offset_lt_offset hsize hji hi)
  · exact fun hij => offset_lt_offset hsize hij hj

theorem offset_le_offset_iff (hsize : ∀ c, 0 < size c) (hi : i ≤ chars.length)
    (hj : j ≤ chars.length) : offset size chars i ≤ offset size chars j ↔ i ≤ j := by
  rw [← Nat.not_lt, ← Nat.not_lt, offset_lt_offset_iff hsize hj hi]

theorem offset_eq_offset_iff (hsize : ∀ c, 0 < size c) (hi : i ≤ chars.length)
    (hj : j ≤ chars.length) : offset size chars i = offset size chars j ↔ i = j := by
  rw [Nat.le_antisymm_iff, Nat.le_antisymm_iff, offset_le_offset_iff hsize hi hj,
    offset_le_offset_iff hsize hj hi]

/-- Before wide characters the place is the index. -/
theorem offset_of_narrow (hnarrow : ∀ c ∈ chars.take j, size c = 1) (hij : i ≤ j)
    (hi : i ≤ chars.length) : offset size chars i = i := by
  induction chars generalizing i j with
  | nil =>
    rw [Nat.le_zero.mp hi]
    rfl
  | cons first rest ih =>
    cases i with
    | zero => rfl
    | succ i =>
      obtain ⟨j, rfl⟩ := Nat.exists_eq_add_one_of_ne_zero (Nat.ne_zero_of_lt hij)
      rw [List.take_succ_cons, List.forall_mem_cons] at hnarrow
      rw [offset_cons_succ, hnarrow.1,
        ih hnarrow.2 (Nat.le_of_succ_le_succ hij) (Nat.le_of_succ_le_succ hi), Nat.add_comm]

/-- Where every character takes up one unit, the place is the index. -/
theorem offset_one (hi : i ≤ chars.length) : offset (fun _ => 1) chars i = i :=
  offset_of_narrow (fun _ _ => rfl) (Nat.le_refl i) hi

/-- Where the place is the index, no wide character stands before it. -/
theorem narrow_of_offset_eq (hsize : ∀ c, 0 < size c) (hi : i ≤ chars.length)
    (hoffset : offset size chars i = i) : ∀ c ∈ chars.take i, size c = 1 := by
  induction chars generalizing i with
  | nil => exact fun c hc => absurd hc (by simp)
  | cons first rest ih =>
    cases i with
    | zero => exact fun c hc => absurd hc (by simp)
    | succ i =>
      have hrest : i ≤ rest.length := Nat.le_of_succ_le_succ hi
      have hfirst := hsize first
      have hbehind := le_offset hsize hrest
      rw [offset_cons_succ] at hoffset
      rw [List.take_succ_cons, List.forall_mem_cons]
      exact ⟨by omega, ih hrest (by omega)⟩

/-! ## Selected tokens -/

/-- The place of a character selects what the character selects. -/
theorem selectsIn_offset_iff (hsize : ∀ c, 0 < size c) (hi : i ≤ chars.length) :
    SelectsIn size chars (offset size chars i) span ↔ Selects chars i span := by
  have hon : ∀ other : Nat × Nat, IsToken chars other →
      ((offset size chars other.1 ≤ offset size chars i ∧
        offset size chars i < offset size chars other.2) ↔ other.1 ≤ i ∧ i < other.2) := by
    intro other hother
    rw [offset_le_offset_iff hsize hother.start_le_length hi,
      offset_lt_offset_iff hsize hi hother.le_length]
  refine and_congr_right fun htoken => ?_
  rw [hon span htoken, offset_eq_offset_iff hsize hi htoken.le_length]
  refine or_congr_right (and_congr_right fun _ => forall₂_congr fun other hother => ?_)
  rw [hon other hother]

/-- A place does not lie behind the place where the token that it selects ends. -/
theorem SelectsIn.le (hselects : SelectsIn size chars place span) :
    place ≤ offset size chars span.2 := by
  rcases hselects.2 with ⟨-, hlt⟩ | ⟨hend, -⟩
  · exact hlt.le
  · exact hend.le

/-- Before wide characters a place selects a token exactly if the index does. -/
theorem selectsIn_iff_of_narrow (hsize : ∀ c, 0 < size c)
    (hnarrow : ∀ c ∈ chars.take span.2, size c = 1) :
    SelectsIn size chars place span ↔ Selects chars place span := by
  have hplace : ∀ i, IsToken chars span → i ≤ span.2 → offset size chars i = i :=
    fun i htoken hi => offset_of_narrow hnarrow hi (hi.trans htoken.le_length)
  -- Either way the place lies before the end of the token, so it is the place of an index.
  have hiff : IsToken chars span → place ≤ span.2 →
      (SelectsIn size chars place span ↔ Selects chars place span) := by
    intro htoken hle
    rw [← selectsIn_offset_iff hsize (hle.trans htoken.le_length), hplace place htoken hle]
  constructor
  · intro hselects
    have hstop := hplace span.2 hselects.1 (Nat.le_refl _)
    exact (hiff hselects.1 (hselects.le.trans_eq hstop)).mp hselects
  · intro hselects
    exact (hiff hselects.1 hselects.le).mpr hselects

/-- Where every character takes up one unit, places are indices. -/
theorem selectsIn_one_iff : SelectsIn (fun _ => 1) chars place span ↔ Selects chars place span :=
  selectsIn_iff_of_narrow (fun _ => Nat.one_pos) fun _ _ => rfl

/-! ## Keywords -/

/-- Keywords are made of narrow characters. -/
theorem narrow_of_describe? {token : String} (htoken : (describe? token).isSome = true) :
    ∀ c ∈ token.toList, Text.utf16Size c = 1 := by
  have hkeywords : ∀ keyword ∈ keywords, ∀ c ∈ keyword.word.toList, Text.utf16Size c = 1 := by
    have hall : (keywords.all fun keyword =>
        keyword.word.toList.all fun c => Text.utf16Size c == 1) = true := by decide +kernel
    simpa only [List.all_eq_true, beq_iff_eq] using hall
  rw [describe?, Option.isSome_map] at htoken
  obtain ⟨keyword, hfound⟩ := Option.isSome_iff_exists.mp htoken
  have hword : keyword.word = token := by
    simpa using List.find?_some hfound
  rw [← hword]
  exact hkeywords keyword (List.mem_of_find?_eq_some hfound)

/-- Before the end of a keyword no wide character stands, if none stands before its beginning. -/
theorem IsKeyword.narrow (hkeyword : IsKeyword chars span)
    (hnarrow : ∀ c ∈ chars.take span.1, Text.utf16Size c = 1) :
    ∀ c ∈ chars.take span.2, Text.utf16Size c = 1 := by
  have hsplit : chars.take span.2 = chars.take span.1 ++ slice chars span := by
    have hlt := hkeyword.1.nonempty
    rw [slice, ← List.take_add, Nat.add_sub_cancel' hlt.le]
  rw [hsplit, List.forall_mem_append]
  refine ⟨hnarrow, fun c hc => narrow_of_describe? hkeyword.2 c ?_⟩
  rwa [String.toList_ofList]

end Hover

end EditorBridge
