import EditorBridge.Json.Basic
import Mathlib.Data.String.Basic

/-!
# Fields of JSON objects

An object is kept as a list of fields, and what a key has is the first field of that name. This
module says what becomes of a key where fields are set one by one, where entries are made into the
fields of an object, and where the fields of one object are set over those of another.

## Main definitions

* `Fields.Sorted`: the fields stand in the order of their names, and each name stands once.

## Main results

* `Fields.get?_set`: one field that is set.
* `Fields.sorted_ofEntries`, `Fields.ofEntries_of_sorted`: entries become sorted fields, and fields
  that are sorted already are left as they are.
* `Fields.get?_overlay`: fields that are set over others.
-/

namespace EditorBridge.Json

theorem ofNat_inj {m n : Nat} : ofNat m = ofNat n ↔ m = n := by
  rw [ofNat, ofNat, number.injEq, Number.int.injEq, Int.natCast_inj]

namespace Fields

variable {fields upper : Fields} {key : String}

@[simp]
theorem get?_nil (key : String) : get? [] key = none := rfl

theorem get?_cons (field : String × Json) (rest : Fields) (key : String) :
    get? (field :: rest) key = if field.1 = key then some field.2 else get? rest key := by
  by_cases hkey : field.1 = key <;> simp [get?, hkey]

/-- A field that is set has its new value, and all others keep theirs. -/
@[simp]
theorem get?_set (key other : String) (value : Json) (fields : Fields) :
    get? (set key value fields) other = if key = other then some value else get? fields other := by
  induction fields with
  | nil => by_cases hkey : key = other <;> simp [set, get?, hkey]
  | cons field rest ih =>
    unfold set
    split
    · by_cases hkey : key = other <;> simp [get?, hkey]
    · split
      · next hsame => by_cases hkey : key = other <;> simp [get?, hkey, ← hsame]
      · next hdiffers =>
        by_cases hfield : field.1 = other
        · have hkey : key ≠ other := fun hkey => hdiffers (hkey.trans hfield.symm)
          simp [get?, hfield, hkey]
        · simpa [get?, hfield] using ih

/-- A name that does not stand among the fields has no value. -/
theorem get?_eq_none (hkey : ∀ field ∈ fields, field.1 ≠ key) : get? fields key = none := by
  rw [get?, Option.map_eq_none_iff, List.find?_eq_none]
  exact fun field hfield => by simpa using hkey field hfield

/-! ## Sorted fields -/

/-- The fields stand in the order of their names, and each name stands once. -/
def Sorted (fields : Fields) : Prop := fields.Pairwise fun field next => field.1 < next.1

theorem mem_of_mem_set {field : String × Json} {value : Json}
    (hfield : field ∈ set key value fields) : field = (key, value) ∨ field ∈ fields := by
  induction fields with
  | nil => exact .inl (List.mem_singleton.mp hfield)
  | cons head rest ih =>
    unfold set at hfield
    split at hfield
    · exact List.mem_cons.mp hfield
    split at hfield
    · exact (List.mem_cons.mp hfield).imp_right (List.mem_cons_of_mem head)
    · rcases List.mem_cons.mp hfield with rfl | hrest
      · exact .inr List.mem_cons_self
      · exact (ih hrest).imp_right (List.mem_cons_of_mem head)

/-- Where a field is set among sorted ones, they stay sorted. -/
theorem sorted_set (hsorted : Sorted fields) (key : String) (value : Json) :
    Sorted (set key value fields) := by
  induction fields with
  | nil => exact List.pairwise_singleton _ _
  | cons head rest ih =>
    obtain ⟨hhead, hrest⟩ := List.pairwise_cons.mp hsorted
    unfold set
    split
    -- The field is put in front of the first one.
    · next hlt =>
      refine List.pairwise_cons.mpr ⟨fun field hfield => ?_, hsorted⟩
      rcases List.mem_cons.mp hfield with rfl | hfield
      · exact hlt
      · exact hlt.trans (hhead field hfield)
    split
    -- It takes the place of the first one, which has its name.
    · next hsame =>
      subst hsame
      exact List.pairwise_cons.mpr ⟨hhead, hrest⟩
    -- It is set behind the first one, which stays in front of all that is there.
    · next hnot hdiffers =>
      refine List.pairwise_cons.mpr ⟨fun field hfield => ?_, ih hrest⟩
      rcases mem_of_mem_set hfield with rfl | hfield
      · exact lt_of_le_of_ne (not_lt.mp hnot) (Ne.symm hdiffers)
      · exact hhead field hfield

/-- A field that stands in front of all others is set by putting it in front. -/
theorem set_of_sorted_cons {value : Json} (hsorted : Sorted ((key, value) :: fields)) :
    set key value fields = (key, value) :: fields := by
  cases fields with
  | nil => rfl
  | cons head rest =>
    rw [set, if_pos ((List.pairwise_cons.mp hsorted).1 head List.mem_cons_self)]

/-! ## Entries as fields -/

theorem sorted_ofEntries (entries : List (String × Json)) : Sorted (ofEntries entries) := by
  induction entries with
  | nil => exact List.Pairwise.nil
  | cons entry rest ih => exact sorted_set ih entry.1 entry.2

/-- Sorted fields are left as they are. -/
theorem ofEntries_of_sorted (hsorted : Sorted fields) : ofEntries fields = fields := by
  induction fields with
  | nil => rfl
  | cons field rest ih =>
    have hrest : ofEntries rest = rest := ih (List.pairwise_cons.mp hsorted).2
    calc ofEntries (field :: rest) = set field.1 field.2 (ofEntries rest) := rfl
      _ = set field.1 field.2 rest := by rw [hrest]
      _ = field :: rest := set_of_sorted_cons hsorted

/-- Entries give each name its first value. -/
@[simp]
theorem get?_ofEntries (entries : List (String × Json)) (key : String) :
    get? (ofEntries entries) key = get? entries key := by
  induction entries with
  | nil => rfl
  | cons entry rest ih =>
    -- The first entry is set last, over any later one of its name.
    rw [get?_cons, ← ih]
    exact get?_set entry.1 key entry.2 (ofEntries rest)

/-! ## Fields over others -/

/-- Where sorted fields are set over others, a name has the value from above if that is not null,
and else the one from below. -/
theorem get?_overlay (hsorted : Sorted upper) (lower : Fields) (key : String) :
    get? (overlay upper lower) key =
      ((get? upper key).filter (!·.isNull)).or (get? lower key) := by
  induction upper generalizing lower with
  | nil => rfl
  | cons field rest ih =>
    obtain ⟨hfirst, hrest⟩ := List.pairwise_cons.mp hsorted
    have hstep : overlay (field :: rest) lower =
        overlay rest (if field.2.isNull then lower else set field.1 field.2 lower) := rfl
    rw [hstep, ih hrest, get?_cons]
    by_cases hkey : field.1 = key
    · -- The name stands once above, so what comes after its field says nothing about it.
      have hnone : get? rest key = none :=
        get?_eq_none fun other hother => (hkey ▸ hfirst other hother).ne'
      cases hnull : field.2.isNull <;> simp [hkey, hnone, hnull, Option.filter_some]
    · cases field.2.isNull <;> simp [hkey]

end Fields

end EditorBridge.Json
