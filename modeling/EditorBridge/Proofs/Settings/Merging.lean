import EditorBridge.Proofs.Settings.Overlay
import Mathlib.Data.List.Basic

/-!
# Merging editor settings

What a value pushed by an editor does to settings that are already there. Only the section for the
language is looked at, and in it only the three fields that are settings. Whether the value is
accepted depends on these fields alone; a field that is set replaces the setting and any other
setting stays.

## Main results

* `acceptable_iff`: which values are accepted, by their fields.
* `mergeEditor_eq_ok_iff`: merging succeeds exactly for these values, and with which settings.
* `mergeEditor_congr`: sections that set the same fields are merged alike.
* `mergeEditor_by_section`: the laws of merging in one statement.
-/

namespace EditorBridge.Settings

/-- Settings with the same value of every key are the same. -/
theorem eq_of_value_eq {first second : Settings}
    (hvalue : ∀ key, first.value key = second.value key) : first = second := by
  obtain ⟨path, arguments, choice⟩ := first
  obtain ⟨path', arguments', choice'⟩ := second
  have hpath : path = path' := Json.string.inj (hvalue .compilerPath)
  have hchoice : choice = choice' := Json.bool.inj (hvalue .autoCompileOnSave)
  have harguments : arguments = arguments' :=
    List.map_injective_iff.mpr (fun _ _ => Json.string.inj) (Json.array.inj (hvalue .compilerArgs))
  rw [hpath, harguments, hchoice]

/-! ## Which values are accepted -/

theorem admits_compilerPath_iff {given : Json} :
    Key.compilerPath.admits given = true ↔ ∃ text, given = .string text := by
  cases given <;> simp [Key.admits, Json.text?]

/-- A list is admitted as arguments exactly if all of its items are texts. -/
theorem admits_compilerArgs_iff {given : Json} :
    Key.compilerArgs.admits given = true ↔ ∃ texts : List String, given = .ofTexts texts := by
  constructor
  · intro hadmits
    obtain ⟨texts, -, hwrite⟩ := reads_compilerArgs.ok given hadmits
    exact ⟨texts, hwrite.symm⟩
  · rintro ⟨texts, rfl⟩
    simp [Json.ofTexts, Key.admits, Json.text?]

theorem admits_autoCompileOnSave_iff {given : Json} :
    Key.autoCompileOnSave.admits given = true ↔ ∃ choice, given = .bool choice := by
  cases given <;> simp [Key.admits]

/-- A field passes if it is absent or null or holds a value that its key admits. -/
theorem all_admits_fieldValue?_iff {fields : Json.Fields} {key : Key} :
    (fieldValue? fields key).all key.admits = true ↔
      ∀ given, Json.Fields.get? fields key.name = some given →
        given = .null ∨ key.admits given = true := by
  unfold fieldValue?
  cases Json.Fields.get? fields key.name with
  | none => simp
  | some given => cases given <;> simp [Json.isNull]

/-- A value is accepted exactly if its section is null, or an object whose three fields are each
absent, null or of the form of their setting. -/
theorem acceptable_iff {pushed : Json} :
    acceptable pushed = true ↔
      sectionOf pushed = .null ∨ ∃ fields, sectionOf pushed = .object fields ∧
        (∀ given, Json.Fields.get? fields "compilerPath" = some given →
          given = .null ∨ ∃ text, given = .string text) ∧
        (∀ given, Json.Fields.get? fields "compilerArgs" = some given →
          given = .null ∨ ∃ texts : List String, given = .ofTexts texts) ∧
        (∀ given, Json.Fields.get? fields "autoCompileOnSave" = some given →
          given = .null ∨ ∃ choice, given = .bool choice) := by
  unfold acceptable
  cases hsection : sectionOf pushed with
  | null => simp
  | object fields =>
    simp only [List.all_cons, List.all_nil, Bool.and_true, Bool.and_eq_true,
      all_admits_fieldValue?_iff, admits_compilerPath_iff, admits_compilerArgs_iff,
      admits_autoCompileOnSave_iff]
    simp [Key.name]
  | _ => simp

/-! ## What merging does -/

/-- Merging succeeds exactly for the accepted values. Then a key has the value it is set to, or else
the value it had. -/
theorem mergeEditor_eq_ok_iff {base merged : Settings} {pushed : Json} :
    base.mergeEditor pushed = .ok merged ↔
      acceptable pushed = true ∧
        ∀ key, merged.value key = (editorValue? pushed key).getD (base.value key) := by
  cases haccept : acceptable pushed with
  | false =>
    obtain ⟨mismatch, hmerge⟩ := mergeEditor_eq_error haccept
    simp [hmerge]
  | true =>
    obtain ⟨patch, hpatch, hmerge⟩ := mergeEditor_eq_ok haccept
    have hvalue : ∀ key, (patch.apply base).value key =
        (editorValue? pushed key).getD (base.value key) := by
      intro key
      rw [value_apply, hpatch]
    rw [hmerge]
    constructor
    · intro hmerged
      rw [← Except.ok.inj hmerged]
      exact ⟨rfl, hvalue⟩
    · rintro ⟨-, hmerged⟩
      rw [eq_of_value_eq fun key => (hvalue key).trans (hmerged key).symm]

/-- Whether merging succeeds does not depend on the settings that are there. -/
theorem exists_mergeEditor_eq_ok_iff (base : Settings) {pushed : Json} :
    (∃ merged, base.mergeEditor pushed = .ok merged) ↔ acceptable pushed = true := by
  constructor
  · rintro ⟨merged, hmerge⟩
    exact (mergeEditor_eq_ok_iff.mp hmerge).1
  · intro haccept
    obtain ⟨patch, -, hmerge⟩ := mergeEditor_eq_ok haccept
    exact ⟨patch.apply base, hmerge base⟩

/-- Fields that set the keys alike are read alike, faults included. -/
theorem ofFields_congr {fields others : Json.Fields}
    (hfields : ∀ key, fieldValue? fields key = fieldValue? others key) :
    Patch.ofFields fields = Patch.ofFields others := by
  have hread : ∀ {α : Type} (key : Key) (read : Json → Except Mismatch α),
      Json.optionalField fields key.name read = Json.optionalField others key.name read := by
    intro α key read
    rw [optionalField_eq, optionalField_eq, hfields]
  have hchoice := hread .autoCompileOnSave Json.expectBool
  have harguments := hread .compilerArgs (Json.expectList Json.expectText)
  have hcompiler := hread .compilerPath Json.expectText
  simp only [Key.name] at hchoice harguments hcompiler
  rw [Patch.ofFields, hchoice, harguments, hcompiler]
  rfl

/-- Sections that set the keys alike are merged alike, whatever else stands in them. -/
theorem mergeEditor_congr {pushed other : Json} {fields others : Json.Fields}
    (hpushed : sectionOf pushed = .object fields) (hother : sectionOf other = .object others)
    (hfields : ∀ key, fieldValue? fields key = fieldValue? others key) (base : Settings) :
    base.mergeEditor pushed = base.mergeEditor other := by
  have hread : Patch.ofEditor pushed = Patch.ofEditor other := by
    simp only [Patch.ofEditor, hpushed, hother, Json.expectFields]
    exact ofFields_congr hfields
  rw [mergeEditor_eq, mergeEditor_eq, hread]

/-- What stands beside a section for the language does not matter. -/
theorem sectionOf_object {fields : Json.Fields} {inner : Json}
    (hinner : Json.Fields.get? fields sectionName = some inner) :
    sectionOf (.object fields) = inner := by
  rw [sectionOf, Json.field?, hinner, Option.getD_some]

/-- The JSON form of settings has no section, and sets every key. -/
theorem editorValue?_toJson (settings : Settings) (key : Key) :
    editorValue? settings.toJson key = some (settings.value key) := by
  cases key <;> rfl

theorem acceptable_toJson (settings : Settings) : acceptable settings.toJson = true := by
  refine acceptable_iff.mpr (.inr ⟨_, rfl, ?_, ?_, ?_⟩)
  · intro given hgiven
    exact .inr ⟨_, (Option.some.inj hgiven).symm⟩
  · intro given hgiven
    exact .inr ⟨_, (Option.some.inj hgiven).symm⟩
  · intro given hgiven
    exact .inr ⟨_, (Option.some.inj hgiven).symm⟩

/-- Merging looks at the section of the pushed value alone. It succeeds exactly if the section is
null, or an object in which the compiler, the arguments and the choice are each absent, null or of
their form, so whether it succeeds does not depend on the settings that are there. Then every
setting has the value it is set to, or else the value it had, and merging the same value again
changes nothing. Nothing else has any influence: not the other fields of the section, and not what
stands beside it. And the JSON form of settings, merged into any settings, gives these settings. -/
theorem mergeEditor_by_section :
    (∀ (base : Settings) (pushed : Json), (∃ merged, base.mergeEditor pushed = .ok merged) ↔
      sectionOf pushed = .null ∨ ∃ fields, sectionOf pushed = .object fields ∧
        (∀ given, Json.Fields.get? fields "compilerPath" = some given →
          given = .null ∨ ∃ text, given = .string text) ∧
        (∀ given, Json.Fields.get? fields "compilerArgs" = some given →
          given = .null ∨ ∃ texts : List String, given = .ofTexts texts) ∧
        (∀ given, Json.Fields.get? fields "autoCompileOnSave" = some given →
          given = .null ∨ ∃ choice, given = .bool choice)) ∧
    (∀ (base merged : Settings) (pushed : Json), base.mergeEditor pushed = .ok merged →
      (∀ key, merged.value key = (editorValue? pushed key).getD (base.value key)) ∧
      merged.mergeEditor pushed = .ok merged) ∧
    (∀ (base : Settings) (pushed other : Json) (fields others : Json.Fields),
      sectionOf pushed = .object fields → sectionOf other = .object others →
      (∀ key, fieldValue? fields key = fieldValue? others key) →
      base.mergeEditor pushed = base.mergeEditor other) ∧
    (∀ (base : Settings) (fields : Json.Fields) (inner : Json),
      Json.Fields.get? fields sectionName = some inner →
      base.mergeEditor (.object fields) = base.mergeEditor (.object [(sectionName, inner)])) ∧
    ∀ base settings : Settings, base.mergeEditor settings.toJson = .ok settings := by
  refine ⟨fun base pushed => ?_, fun base merged pushed hmerge => ?_, ?_, ?_, ?_⟩
  · rw [exists_mergeEditor_eq_ok_iff, acceptable_iff]
  · obtain ⟨haccept, hvalue⟩ := mergeEditor_eq_ok_iff.mp hmerge
    refine ⟨hvalue, mergeEditor_eq_ok_iff.mpr ⟨haccept, fun key => ?_⟩⟩
    -- A key that is set has its value already.
    cases hset : editorValue? pushed key with
    | none => rfl
    | some given => rw [hvalue, hset, Option.getD_some, Option.getD_some]
  · intro base pushed other fields others hpushed hother hfields
    exact mergeEditor_congr hpushed hother hfields base
  · intro base fields inner hinner
    have hsection : sectionOf (.object fields) = sectionOf (.object [(sectionName, inner)]) := by
      rw [sectionOf_object hinner, sectionOf_object rfl]
    unfold mergeEditor
    rw [hsection]
  · intro base settings
    refine mergeEditor_eq_ok_iff.mpr ⟨acceptable_toJson settings, fun key => ?_⟩
    rw [editorValue?_toJson, Option.getD_some]

/-- A section with a null field and a section of its own, pushed beside a field that it hides, is
merged as the two settings that it sets. -/
theorem mergeEditor_by_section_nested :
    let base : Settings := ⟨"file-zc", ["-O"], false⟩
    let merged : Settings := ⟨"zc", ["-O"], true⟩
    let fields : Json.Fields := [("autoCompileOnSave", .bool true), ("compilerArgs", .null),
      ("compilerPath", .string "zc"), ("z", .object [("compilerPath", .bool false)])]
    let plain : Json.Fields := [("autoCompileOnSave", .bool true), ("compilerPath", .string "zc")]
    let around : Json.Fields := [("compilerPath", .bool false), ("z", .object fields)]
    base.mergeEditor (.object around) = .ok merged ∧
      merged.mergeEditor (.object around) = .ok merged ∧
      (∀ key, fieldValue? fields key = fieldValue? plain key) ∧
      base.mergeEditor (.object around) = base.mergeEditor (.object plain) ∧
      Json.Fields.get? around sectionName = some (.object fields) ∧
      base.mergeEditor (.object around) =
        base.mergeEditor (.object [(sectionName, .object fields)]) := by
  intro base merged fields plain around
  have hmerge : base.mergeEditor (.object around) = .ok merged := by decide +kernel
  have hfields : ∀ key, fieldValue? fields key = fieldValue? plain key := by
    intro key
    cases key <;> rfl
  have hinner : Json.Fields.get? around sectionName = some (.object fields) := rfl
  obtain ⟨-, hagain, hcongr, hbeside, -⟩ := mergeEditor_by_section
  exact ⟨hmerge, (hagain base merged (.object around) hmerge).2, hfields,
    hcongr base (.object around) (.object plain) fields plain rfl rfl hfields, hinner,
    hbeside base around (.object fields) hinner⟩

end EditorBridge.Settings
