import EditorBridge.Settings.Editor

/-!
# Which editor settings are accepted

Settings are a value for each of three keys. This module states, on JSON values alone, which
values an editor may push and what each of them sets a key to, and proves that the readers of
settings follow this statement.

## Main definitions

* `Key`, `value`, `Patch.value?`: the settings key by key.
* `editorValue?`: what a pushed value sets a key to.
* `acceptable`: whether a pushed value can be used.
* `Patch.ofEditor`: the patch that a pushed value stands for.

## Main results

* `ofEditor_eq_ok`, `ofEditor_eq_error`: reading a pushed value succeeds exactly if it is
  acceptable, and then sets each key as stated.
-/

namespace EditorBridge.Settings

/-- The keys of the settings. -/
inductive Key where
  /-- The compiler. -/
  | compilerPath
  /-- The arguments before the source file. -/
  | compilerArgs
  /-- The choice to compile on save. -/
  | autoCompileOnSave
deriving DecidableEq, Repr

namespace Key

/-- The name of a key in settings files and in pushed values. -/
def name : Key → String
  | .compilerPath => "compilerPath"
  | .compilerArgs => "compilerArgs"
  | .autoCompileOnSave => "autoCompileOnSave"

/-- Whether a JSON value is of the kind that a key takes. -/
def admits : Key → Json → Bool
  | .compilerPath, value => value.text?.isSome
  | .compilerArgs, .array items => items.all (·.text?.isSome)
  | .autoCompileOnSave, .bool _ => true
  | _, _ => false

end Key

/-- The value of a key, in its JSON form. -/
def value (settings : Settings) : Key → Json
  | .compilerPath => .string settings.compilerPath
  | .compilerArgs => .ofTexts settings.compilerArgs
  | .autoCompileOnSave => .bool settings.autoCompileOnSave

/-- The value a patch sets a key to, in its JSON form. -/
def Patch.value? (patch : Patch) : Key → Option Json
  | .compilerPath => patch.compilerPath.map .string
  | .compilerArgs => patch.compilerArgs.map .ofTexts
  | .autoCompileOnSave => patch.autoCompileOnSave.map .bool

/-- What the fields of an object set a key to: a field that is null sets nothing. -/
def fieldValue? (fields : Json.Fields) (key : Key) : Option Json :=
  (Json.Fields.get? fields key.name).filter (!·.isNull)

/-- What a pushed value sets a key to. Only the section for the language counts. -/
def editorValue? (pushed : Json) (key : Key) : Option Json :=
  ((sectionOf pushed).field? key.name).filter (!·.isNull)

/-- Whether a pushed value can be used: its section is null, or an object that sets each key to a
value of its kind or not at all. -/
def acceptable (pushed : Json) : Bool :=
  match sectionOf pushed with
  | .null => true
  | .object fields =>
    [Key.compilerPath, .compilerArgs, .autoCompileOnSave].all fun key =>
      (fieldValue? fields key).all key.admits
  | _ => false

/-- A patch wins over the settings it is applied to, key by key. -/
@[simp]
theorem value_apply (patch : Patch) (settings : Settings) (key : Key) :
    (patch.apply settings).value key = (patch.value? key).getD (settings.value key) := by
  cases key with
  | compilerPath => cases h : patch.compilerPath <;> simp [Patch.apply, value, Patch.value?, h]
  | compilerArgs => cases h : patch.compilerArgs <;> simp [Patch.apply, value, Patch.value?, h]
  | autoCompileOnSave =>
    cases h : patch.autoCompileOnSave <;> simp [Patch.apply, value, Patch.value?, h]

/-! ## Reading a pushed value -/

/-- A reader of JSON values accepts exactly the admitted ones, and what it reads is written back as
it was. -/
structure Reads {α : Type} (read : Json → Except Mismatch α) (write : α → Json)
    (admits : Json → Bool) : Prop where
  /-- An admitted value is read. -/
  ok : ∀ value, admits value = true → ∃ a, read value = .ok a ∧ write a = value
  /-- Any other value is refused. -/
  error : ∀ value, admits value = false → ∃ mismatch, read value = .error mismatch

/-- If every item is admitted, a list is read item by item. -/
theorem Reads.mapM_ok {α : Type} {read : Json → Except Mismatch α} {write : α → Json}
    {admits : Json → Bool} (hreads : Reads read write admits) {items : List Json}
    (hitems : ∀ item ∈ items, admits item = true) :
    ∃ values, items.mapM read = .ok values ∧ values.map write = items := by
  induction items with
  | nil => exact ⟨[], rfl, rfl⟩
  | cons item rest ih =>
    obtain ⟨first, hfirst, hwrite⟩ := hreads.ok item (hitems item List.mem_cons_self)
    obtain ⟨others, hothers, hwrites⟩ :=
      ih fun item hitem => hitems item (List.mem_cons_of_mem _ hitem)
    refine ⟨first :: others, ?_, by rw [List.map_cons, hwrite, hwrites]⟩
    rw [List.mapM_cons, hfirst, hothers]
    rfl

/-- One item that is not admitted stops the reading of a list. -/
theorem Reads.mapM_error {α : Type} {read : Json → Except Mismatch α} {write : α → Json}
    {admits : Json → Bool} (hreads : Reads read write admits) {items : List Json}
    (hitems : ∃ item ∈ items, admits item = false) :
    ∃ mismatch, items.mapM read = .error mismatch := by
  induction items with
  | nil => simp at hitems
  | cons item rest ih =>
    rw [List.mapM_cons]
    cases hadmits : admits item with
    | false =>
      obtain ⟨mismatch, hread⟩ := hreads.error item hadmits
      exact ⟨mismatch, by rw [hread]; rfl⟩
    | true =>
      obtain ⟨first, hfirst, -⟩ := hreads.ok item hadmits
      obtain ⟨mismatch, hrest⟩ := ih (by simpa [hadmits] using hitems)
      exact ⟨mismatch, by rw [hfirst, hrest]; rfl⟩

/-- Texts are read as they are. This is the reader of the compiler. -/
theorem reads_compilerPath : Reads Json.expectText .string Key.compilerPath.admits where
  ok value h := by
    cases value with
    | string text => exact ⟨text, rfl, rfl⟩
    | _ => simp [Key.admits, Json.text?] at h
  error value h := by
    cases value with
    | string text => simp [Key.admits, Json.text?] at h
    | _ => exact ⟨_, rfl⟩

theorem reads_compilerArgs :
    Reads (Json.expectList Json.expectText) .ofTexts Key.compilerArgs.admits where
  ok value h := by
    cases value with
    | array items =>
      obtain ⟨texts, hread, hwrite⟩ := reads_compilerPath.mapM_ok (by simpa [Key.admits] using h)
      exact ⟨texts, hread, congrArg Json.array hwrite⟩
    | _ => simp [Key.admits] at h
  error value h := by
    cases value with
    | array items => exact reads_compilerPath.mapM_error (by simpa [Key.admits] using h)
    | _ => exact ⟨_, rfl⟩

theorem reads_autoCompileOnSave : Reads Json.expectBool .bool Key.autoCompileOnSave.admits where
  ok value h := by
    cases value with
    | bool choice => exact ⟨choice, rfl, rfl⟩
    | _ => simp [Key.admits] at h
  error value h := by
    cases value with
    | bool choice => simp [Key.admits] at h
    | _ => exact ⟨_, rfl⟩

/-- An optional field is read only if it sets its key. -/
theorem optionalField_eq {α : Type} (fields : Json.Fields) (key : Key)
    (read : Json → Except Mismatch α) :
    Json.optionalField fields key.name read =
      match fieldValue? fields key with
      | none => .ok none
      | some given => some <$> read given := by
  unfold Json.optionalField fieldValue?
  split
  · next hget => rw [hget]; rfl
  · next hget => rw [hget]; rfl
  · next given hnull hget =>
    have hset : (!given.isNull) = true := by cases given <;> simp_all [Json.isNull]
    rw [hget, Option.filter_some, if_pos hset]

/-- A field that is not set, or set to an admitted value, is read as that value. -/
theorem Reads.optionalField_ok {α : Type} {read : Json → Except Mismatch α} {write : α → Json}
    {key : Key} (hreads : Reads read write key.admits) {fields : Json.Fields}
    (hfield : (fieldValue? fields key).all key.admits = true) :
    ∃ value, Json.optionalField fields key.name read = .ok value ∧
      value.map write = fieldValue? fields key := by
  rw [optionalField_eq]
  cases hset : fieldValue? fields key with
  | none => exact ⟨none, rfl, rfl⟩
  | some given =>
    obtain ⟨value, hread, hwrite⟩ := hreads.ok given (by simpa [hset] using hfield)
    refine ⟨some value, ?_, congrArg some hwrite⟩
    simp only [hread]
    rfl

/-- A field that is set to a value that is not admitted stops its reader. -/
theorem Reads.optionalField_error {α : Type} {read : Json → Except Mismatch α} {write : α → Json}
    {key : Key} (hreads : Reads read write key.admits) {fields : Json.Fields}
    (hfield : (fieldValue? fields key).all key.admits = false) :
    ∃ mismatch, Json.optionalField fields key.name read = .error mismatch := by
  rw [optionalField_eq]
  cases hset : fieldValue? fields key with
  | none => simp [hset] at hfield
  | some given =>
    obtain ⟨mismatch, hread⟩ := hreads.error given (by simpa [hset] using hfield)
    refine ⟨mismatch, ?_⟩
    simp only [hread]
    rfl

/-- Fields that all admit their values are read as a patch that sets the same keys. -/
theorem ofFields_ok {fields : Json.Fields}
    (hfields : ∀ key, (fieldValue? fields key).all key.admits = true) :
    ∃ patch, Patch.ofFields fields = .ok patch ∧
      ∀ key, patch.value? key = fieldValue? fields key := by
  obtain ⟨choice, hchoice, hsave⟩ :=
    reads_autoCompileOnSave.optionalField_ok (hfields .autoCompileOnSave)
  obtain ⟨arguments, harguments, hargs⟩ :=
    reads_compilerArgs.optionalField_ok (hfields .compilerArgs)
  obtain ⟨compiler, hcompiler, hpath⟩ :=
    reads_compilerPath.optionalField_ok (hfields .compilerPath)
  refine ⟨⟨compiler, arguments, choice⟩, ?_, ?_⟩
  · simp only [Key.name] at hchoice harguments hcompiler
    rw [Patch.ofFields, hchoice, harguments, hcompiler]
    rfl
  · intro key
    cases key with
    | compilerPath => exact hpath
    | compilerArgs => exact hargs
    | autoCompileOnSave => exact hsave

/-- One field with a value that is not admitted is enough to refuse all of them. -/
theorem ofFields_error {fields : Json.Fields} {key : Key}
    (hfield : (fieldValue? fields key).all key.admits = false) :
    ∃ mismatch, Patch.ofFields fields = .error mismatch := by
  unfold Patch.ofFields
  cases hchoice : Json.optionalField fields "autoCompileOnSave" Json.expectBool with
  | error mismatch => exact ⟨mismatch, rfl⟩
  | ok choice =>
    cases harguments : Json.optionalField fields "compilerArgs"
        (Json.expectList Json.expectText) with
    | error mismatch => exact ⟨mismatch, rfl⟩
    | ok arguments =>
      cases hcompiler : Json.optionalField fields "compilerPath" Json.expectText with
      | error mismatch => exact ⟨mismatch, rfl⟩
      | ok compiler =>
        -- All three fields were read, so none of them can be the one at fault.
        exfalso
        cases key with
        | compilerPath =>
          obtain ⟨mismatch, h⟩ := reads_compilerPath.optionalField_error hfield
          simp [Key.name, hcompiler] at h
        | compilerArgs =>
          obtain ⟨mismatch, h⟩ := reads_compilerArgs.optionalField_error hfield
          simp [Key.name, harguments] at h
        | autoCompileOnSave =>
          obtain ⟨mismatch, h⟩ := reads_autoCompileOnSave.optionalField_error hfield
          simp [Key.name, hchoice] at h

/-- The patch that an editor's settings stand for. -/
def Patch.ofEditor (pushed : Json) : Except Mismatch Patch :=
  match sectionOf pushed with
  | .null => .ok {}
  | settings => do Patch.ofFields (← settings.expectFields)

/-- An acceptable value is read as a patch that sets each key as the value does. -/
theorem ofEditor_eq_ok {pushed : Json} (haccept : acceptable pushed = true) :
    ∃ patch, Patch.ofEditor pushed = .ok patch ∧
      ∀ key, patch.value? key = editorValue? pushed key := by
  unfold acceptable at haccept
  unfold Patch.ofEditor editorValue?
  cases hsection : sectionOf pushed with
  | null => exact ⟨{}, rfl, fun key => by cases key <;> rfl⟩
  | object fields =>
    simp only [hsection] at haccept
    have hfields : ∀ key : Key, (fieldValue? fields key).all key.admits = true := by
      intro key
      cases key <;> simp_all
    exact ofFields_ok hfields
  | _ => simp [hsection] at haccept

/-- Any other value is refused. -/
theorem ofEditor_eq_error {pushed : Json} (haccept : acceptable pushed = false) :
    ∃ mismatch, Patch.ofEditor pushed = .error mismatch := by
  unfold acceptable at haccept
  unfold Patch.ofEditor
  cases hsection : sectionOf pushed with
  | null => simp [hsection] at haccept
  | object fields =>
    simp only [hsection, List.all_eq_false, Bool.not_eq_true] at haccept
    obtain ⟨key, -, hfield⟩ := haccept
    exact ofFields_error hfield
  | _ => exact ⟨_, rfl⟩

end EditorBridge.Settings
