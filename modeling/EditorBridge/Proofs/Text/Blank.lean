import EditorBridge.Text.Blank
import Mathlib.Data.List.DropRight

/-!
# Texts without blanks around them

Trimming takes the blanks from the two ends of a text. What is left neither starts nor ends with a
blank, a text that does neither stays as it is, and nothing is left of a text of blanks only.

## Main results

* `trim_eq_self_iff`: which texts are not changed.
* `trim_eq_empty_iff`: of which texts nothing is left.
-/

namespace EditorBridge.Text

/-- What is left behind leading blanks does not start with a blank. -/
theorem isBlank_head?_dropWhile {chars : List Char} {c : Char}
    (hc : (chars.dropWhile isBlank).head? = some c) : isBlank c = false := by
  have hnot := List.head?_dropWhile_not isBlank chars
  rwa [hc] at hnot

/-- A trimmed text does not start with a blank. -/
theorem isBlank_head?_trimChars {chars : List Char} {c : Char}
    (hc : (trimChars chars).head? = some c) : isBlank c = false := by
  obtain ⟨rest, hrest⟩ : trimChars chars <+: chars.dropWhile isBlank :=
    List.rdropWhile_prefix isBlank (chars.dropWhile isBlank)
  have hfirst : (chars.dropWhile isBlank).head? = some c := by
    rw [← hrest, List.head?_append, hc]
    rfl
  exact isBlank_head?_dropWhile hfirst

/-- A trimmed text does not end with a blank. -/
theorem isBlank_getLast?_trimChars {chars : List Char} {c : Char}
    (hc : (trimChars chars).getLast? = some c) : isBlank c = false := by
  rw [trimChars, List.getLast?_reverse] at hc
  exact isBlank_head?_dropWhile hc

/-- A text is not changed exactly if it neither starts nor ends with a blank. -/
theorem trim_eq_self_iff {text : String} :
    trim text = text ↔
      (∀ c, text.toList.head? = some c → isBlank c = false) ∧
        ∀ c, text.toList.getLast? = some c → isBlank c = false := by
  constructor
  · intro htrim
    have hchars : trimChars text.toList = text.toList := by
      rw [← String.toList_ofList (l := trimChars text.toList)]
      exact congrArg String.toList htrim
    refine ⟨fun c hc => ?_, fun c hc => ?_⟩
    · rw [← hchars] at hc
      exact isBlank_head?_trimChars hc
    · rw [← hchars] at hc
      exact isBlank_getLast?_trimChars hc
  · rintro ⟨hfirst, hlast⟩
    have hstart : text.toList.dropWhile isBlank = text.toList := by
      cases hchars : text.toList with
      | nil => rfl
      | cons c rest =>
        have hc : ¬isBlank c = true := Bool.eq_false_iff.mp (hfirst c (by rw [hchars]; rfl))
        exact List.dropWhile_cons_of_neg hc
    have hend : text.toList.rdropWhile isBlank = text.toList := by
      refine List.rdropWhile_eq_self_iff.mpr fun hne => Bool.eq_false_iff.mp (hlast _ ?_)
      exact List.getLast?_eq_getLast_of_ne_nil hne
    have hchars : trimChars text.toList = text.toList := by
      rw [trimChars, hstart]
      exact hend
    rw [trim, hchars, String.ofList_toList]

/-- A trimmed text is not changed by trimming it again. -/
theorem trim_trim (text : String) : trim (trim text) = trim text := by
  rw [trim_eq_self_iff, trim, String.toList_ofList]
  exact ⟨fun _ => isBlank_head?_trimChars, fun _ => isBlank_getLast?_trimChars⟩

/-- Nothing is left exactly of the texts of blanks. -/
theorem trim_eq_empty_iff {text : String} :
    trim text = "" ↔ ∀ c ∈ text.toList, isBlank c = true := by
  have hempty : trim text = "" ↔ trimChars text.toList = [] := by
    rw [trim]
    exact ⟨fun h => by simpa using congrArg String.toList h, fun h => by rw [h]⟩
  have hchars : trimChars text.toList = [] ↔
      ∀ c ∈ text.toList.dropWhile isBlank, isBlank c = true := List.rdropWhile_eq_nil_iff
  rw [hempty, hchars]
  constructor
  · intro hrest
    -- What is left behind the leading blanks does not start with a blank.
    have hnil : text.toList.dropWhile isBlank = [] := by
      cases hleft : text.toList.dropWhile isBlank with
      | nil => rfl
      | cons c rest =>
        have hfirst : (text.toList.dropWhile isBlank).head? = some c := by
          rw [hleft]
          rfl
        have hc : isBlank c = false := isBlank_head?_dropWhile hfirst
        rw [hrest c (hleft ▸ List.mem_cons_self)] at hc
        exact nomatch hc
    exact List.dropWhile_eq_nil_iff.mp hnil
  · intro hblank
    rw [List.dropWhile_eq_nil_iff.mpr hblank]
    exact List.forall_mem_nil _

end EditorBridge.Text
