import EditorBridge.Proofs.Json
import EditorBridge.Proofs.Settings.Acceptance

/-!
# Editor settings over others

An editor's settings are merged by way of JSON. The settings that are there are written out, the
fields of the editor's section are set over them, and what comes of it is read back as a whole. What
was written out is read back as it was, so only a field of the editor can be at fault, and what is
read are the settings with the patch that the section stands for by itself.

## Main results

* `get?_overlay_toFields`: what a key has when an editor's fields are set over settings.
* `ofFields_overlay_toFields`: what is read back, faults included.
* `mergeEditor_of_sorted`: the fields of an object as it is read are set as they stand.
* `mergeEditor_eq`: to merge an editor's settings is to apply their patch.
* `mergeEditor_eq_ok`, `mergeEditor_eq_error`: whether a value can be merged depends on the value
  alone, and so does what it changes or what is wrong with it.
-/

namespace EditorBridge.Settings

/-! ## Writing out and setting fields -/

/-- Settings that are written out have a value for every key. -/
theorem get?_toFields (settings : Settings) (key : Key) :
    Json.Fields.get? settings.toFields key.name = some (settings.value key) := by
  cases key <;> rfl

/-- Over settings that are written out, a key has the value that an editor's fields set it to, or
else the value that it had. -/
theorem get?_overlay_toFields (settings : Settings) (entries : List (String × Json)) (key : Key) :
    Json.Fields.get? (Json.Fields.overlay (.ofEntries entries) settings.toFields) key.name =
      some ((fieldValue? entries key).getD (settings.value key)) := by
  rw [Json.Fields.get?_overlay (Json.Fields.sorted_ofEntries entries), Json.Fields.get?_ofEntries,
    get?_toFields, fieldValue?]
  cases (Json.Fields.get? entries key.name).filter (!·.isNull) <;> rfl

/-! ## Reading back -/

/-- Texts that are written out are read back as they were. -/
theorem expectList_ofTexts (texts : List String) :
    Json.expectList Json.expectText (.ofTexts texts) = .ok texts := by
  induction texts with
  | nil => rfl
  | cons text rest ih =>
    have hrest : (rest.map Json.string).mapM Json.expectText = .ok rest := ih
    simp only [Json.ofTexts, Json.expectList, List.map_cons, List.mapM_cons, hrest]
    rfl

/-- What is read back for a key is what the editor's field holds, or else what was held before. The
default is never used, because no key is absent. -/
theorem defaultedField_overlay {α : Type} {settings : Settings} {key : Key}
    {read : Json → Except Mismatch α} {held : α} (hheld : read (settings.value key) = .ok held)
    (entries : List (String × Json)) (default : α) :
    Json.defaultedField (Json.Fields.overlay (.ofEntries entries) settings.toFields) key.name
        default read =
      (·.getD held) <$> Json.optionalField entries key.name read := by
  rw [optionalField_eq, Json.defaultedField, get?_overlay_toFields]
  cases fieldValue? entries key with
  | none => exact hheld
  | some given =>
    -- The reader sees the same value on both sides, so it finds the same fault with it.
    show read given = (·.getD held) <$> some <$> read given
    cases read given <;> rfl

/-- What is read back are the settings with the patch of the editor's fields, and it fails exactly
where the patch fails to be read, with the same mismatch. -/
theorem ofFields_overlay_toFields (settings : Settings) (entries : List (String × Json)) :
    ofFields (Json.Fields.overlay (.ofEntries entries) settings.toFields) =
      (·.apply settings) <$> Patch.ofFields entries := by
  have hchoice : Json.expectBool (settings.value .autoCompileOnSave) =
      .ok settings.autoCompileOnSave := rfl
  have harguments : Json.expectList Json.expectText (settings.value .compilerArgs) =
      .ok settings.compilerArgs := expectList_ofTexts settings.compilerArgs
  have hcompiler : Json.expectText (settings.value .compilerPath) = .ok settings.compilerPath := rfl
  have hreadChoice := defaultedField_overlay hchoice entries default.autoCompileOnSave
  have hreadArguments := defaultedField_overlay harguments entries default.compilerArgs
  have hreadCompiler := defaultedField_overlay hcompiler entries default.compilerPath
  simp only [Key.name] at hreadChoice hreadArguments hreadCompiler
  rw [ofFields, hreadChoice, hreadArguments, hreadCompiler, Patch.ofFields]
  -- Both read the three fields in the same order, so they fail at the same one.
  cases Json.optionalField entries "autoCompileOnSave" Json.expectBool with
  | error mismatch => rfl
  | ok choice =>
    cases Json.optionalField entries "compilerArgs" (Json.expectList Json.expectText) with
    | error mismatch => rfl
    | ok arguments =>
      cases Json.optionalField entries "compilerPath" Json.expectText with
      | error mismatch => rfl
      | ok compiler => rfl

/-! ## Merging -/

/-- To merge an editor's settings into others is to apply the patch that they stand for. -/
theorem mergeEditor_eq (settings : Settings) (pushed : Json) :
    settings.mergeEditor pushed = (·.apply settings) <$> Patch.ofEditor pushed := by
  unfold mergeEditor Patch.ofEditor
  cases sectionOf pushed with
  | null => rfl
  | object entries => exact ofFields_overlay_toFields settings entries
  | bool _ | number _ | string _ | array _ => rfl

/-- An object as it is read has its fields in order, and these are set as they stand. -/
theorem mergeEditor_of_sorted {pushed : Json} {fields : Json.Fields}
    (hsection : sectionOf pushed = .object fields) (hsorted : Json.Fields.Sorted fields)
    (settings : Settings) :
    settings.mergeEditor pushed = ofFields (Json.Fields.overlay fields settings.toFields) := by
  have hmap : Json.expectMap (.object fields) = .ok fields :=
    congrArg Except.ok (Json.Fields.ofEntries_of_sorted hsorted)
  simp only [mergeEditor, hsection, hmap]
  rfl

/-- An acceptable value is merged into all settings, and does the same to all of them. -/
theorem mergeEditor_eq_ok {pushed : Json} (haccept : acceptable pushed = true) :
    ∃ patch : Patch, (∀ key, patch.value? key = editorValue? pushed key) ∧
      ∀ settings : Settings, settings.mergeEditor pushed = .ok (patch.apply settings) := by
  obtain ⟨patch, hread, hpatch⟩ := ofEditor_eq_ok haccept
  refine ⟨patch, hpatch, fun settings => ?_⟩
  rw [mergeEditor_eq, hread]
  rfl

/-- Any other value is merged into no settings, and for all of them the same is wrong with it. -/
theorem mergeEditor_eq_error {pushed : Json} (haccept : acceptable pushed = false) :
    ∃ mismatch, ∀ settings : Settings, settings.mergeEditor pushed = .error mismatch := by
  obtain ⟨mismatch, hread⟩ := ofEditor_eq_error haccept
  refine ⟨mismatch, fun settings => ?_⟩
  rw [mergeEditor_eq, hread]
  rfl

end EditorBridge.Settings
