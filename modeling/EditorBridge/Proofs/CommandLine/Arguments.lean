import EditorBridge.CommandLine.Command
import EditorBridge.Proofs.Success
import EditorBridge.Proofs.Text.Utf8

/-!
# What is read from a command line

The arguments of a command are read one after the other. What has been found at any time are switches
of the command and values of its parameters, each in the form of its parameter, and every argument
that was told by its order has been found or is the last one met. So a command line that is read to
its end yields a value in the right form for every argument that the command needs. In particular a
compile is given the name of a file.

## Main definitions

* `Level.Admits`: a value that a level of the command line can yield for a key.
* `Reading.Sound`: what is known at any time about arguments that have been read.

## Main results

* `Reading.Sound.step`: reading one more argument keeps what is known.
* `readLevel_sound`: what the arguments of a command yield.
* `file_ne_nil_of_ofArguments`: a compile is given the name of a file.
-/

namespace EditorBridge.CommandLine

/-- The parameters of a level: those of its options, and those that are told by their order. -/
def Level.parameters (level : Level) : List Parameter :=
  level.options.filterMap (fun flag =>
    match flag.action with
    | .value parameter => some parameter
    | _ => none) ++ level.positionals

/-- A level can yield a value for a key: the empty text for a switch, and any value in the form of a
parameter for that parameter. -/
inductive Level.Admits (level : Level) : String → String → Prop
  | switch {flag : Flag} : flag ∈ level.options → flag.action = .switch → Admits level flag.key ""
  | value {parameter : Parameter} {value : String} : parameter ∈ level.parameters →
      parameter.check value = .ok () → Admits level parameter.key value

theorem Level.mem_parameters_of_option {level : Level} {flag : Flag} {parameter : Parameter}
    (hflag : flag ∈ level.options) (haction : flag.action = .value parameter) :
    parameter ∈ level.parameters := by
  refine List.mem_append_left _ (List.mem_filterMap.mpr ⟨flag, hflag, ?_⟩)
  rw [haction]

theorem Level.mem_parameters_of_positional {level : Level} {parameter : Parameter}
    (hparameter : parameter ∈ level.positionals) : parameter ∈ level.parameters :=
  List.mem_append_right _ hparameter

namespace Reading

/-- All that has been found, with the value that was met last. -/
def seen (reading : Reading) : List (String × String) :=
  match reading.pending with
  | some (parameter, some value) => reading.found ++ [(parameter.key, value)]
  | _ => reading.found

/-- What is known about arguments that have been read: what was found are values that the level
admits, the parameter that was met last is one of the level, and each argument that is told by its
order has been seen up to the position. -/
structure Sound (level : Level) (reading : Reading) : Prop where
  level_eq : reading.level = level
  found : ∀ key value, (key, value) ∈ reading.found → level.Admits key value
  pending : ∀ parameter value, reading.pending = some (parameter, value) →
    parameter ∈ level.parameters
  met : ∀ parameter ∈ level.positionals.take reading.position,
    ∃ value, (parameter.key, value) ∈ reading.seen

variable {level : Level} {reading next : Reading} {parameter : Parameter} {flag : Flag}
  {key value argument : String}

/-! ## Single steps -/

theorem sound_start (level : Level) : Sound level { level } where
  level_eq := rfl
  found := fun _ _ hfound => nomatch hfound
  pending := fun _ _ hpending => nomatch hpending
  met := fun _ hparameter => by simp at hparameter

theorem take_eq_ok (htake : reading.take parameter value = .ok next) :
    parameter.check value = .ok () ∧
      next = { reading with found := reading.found ++ [(parameter.key, value)] } := by
  unfold take at htake
  split at htake
  · exact nomatch htake
  · obtain ⟨⟨⟩, hcheck, hnext⟩ := bind_eq_ok_iff.mp htake
    exact ⟨mapError_eq_ok_iff.mp hcheck, (Except.ok.inj hnext).symm⟩

/-- Taking in what was met last leaves nothing to take in, and nothing is lost. -/
theorem settle_eq_ok (hsettle : reading.settle = .ok next) :
    next = { reading with found := reading.seen, pending := none } ∧
      ∀ parameter value, reading.pending = some (parameter, some value) →
        parameter.check value = .ok () := by
  unfold settle at hsettle
  split at hsettle
  · -- There is nothing to take in.
    next hpending =>
    obtain rfl := Except.ok.inj hsettle
    refine ⟨?_, fun parameter value h => by simp [hpending] at h⟩
    simp only [seen, hpending]
    rw [← hpending]
  · exact nomatch hsettle
  · next parameter value hpending =>
    obtain ⟨hcheck, rfl⟩ := take_eq_ok hsettle
    refine ⟨?_, fun other text h => ?_⟩
    · simp [seen, hpending]
    · obtain ⟨rfl, rfl⟩ : parameter = other ∧ value = text := by simpa [hpending] using h
      exact hcheck

/-- Behind the last value that was taken in there is nothing pending. -/
theorem Sound.settle (hsound : Sound level reading) (hsettle : reading.settle = .ok next) :
    Sound level next ∧ next.pending = none ∧ next.position = reading.position := by
  obtain ⟨rfl, hcheck⟩ := settle_eq_ok hsettle
  refine ⟨⟨hsound.level_eq, ?_, fun _ _ h => (nomatch h), hsound.met⟩, rfl, rfl⟩
  intro key value hseen
  -- All is found that was seen, and only the last value has still to be looked at.
  simp only [seen] at hseen
  split at hseen
  · next parameter last hpending =>
    rcases List.mem_append.mp hseen with hfound | hlast
    · exact hsound.found key value hfound
    · obtain ⟨rfl, rfl⟩ := Prod.mk.inj (List.mem_singleton.mp hlast)
      exact .value (hsound.pending _ _ hpending) (hcheck _ _ hpending)
  · exact hsound.found key value hseen

theorem Sound.append (hsound : Sound level reading) (hpending : reading.pending = none)
    (hadmits : level.Admits key value) :
    Sound level { reading with found := reading.found ++ [(key, value)] } where
  level_eq := hsound.level_eq
  found := by
    intro other text hfound
    rcases List.mem_append.mp hfound with hbefore | hlast
    · exact hsound.found other text hbefore
    · obtain ⟨rfl, rfl⟩ := Prod.mk.inj (List.mem_singleton.mp hlast)
      exact hadmits
  pending := hsound.pending
  met := by
    intro parameter hparameter
    obtain ⟨text, hseen⟩ := hsound.met parameter hparameter
    refine ⟨text, ?_⟩
    simp only [seen, hpending] at hseen ⊢
    exact List.mem_append_left _ hseen

/-- Where all that was seen is found, another parameter may be met, with its value or without. -/
theorem Sound.hold (hsound : Sound level reading) (hseen : reading.seen = reading.found)
    (hparameter : parameter ∈ level.parameters) (value : Option String) :
    Sound level { reading with pending := some (parameter, value) } where
  level_eq := hsound.level_eq
  found := hsound.found
  pending := by
    rintro other text hother
    obtain ⟨rfl, -⟩ := Prod.mk.inj (Option.some.inj hother)
    exact hparameter
  met := by
    intro other hother
    obtain ⟨text, hmem⟩ := hsound.met other hother
    rw [hseen] at hmem
    refine ⟨text, ?_⟩
    -- The value is one more that is seen.
    cases value with
    | none => exact hmem
    | some value => exact List.mem_append_left _ hmem

theorem seen_of_pending_eq_none (hpending : reading.pending = none) :
    reading.seen = reading.found := by
  simp only [seen, hpending]

theorem seen_of_awaited (hpending : reading.pending = some (parameter, none)) :
    reading.seen = reading.found := by
  simp only [seen, hpending]

theorem Sound.switch (hsound : Sound level reading) (hflag : flag ∈ level.options)
    (haction : flag.action = .switch) (hswitch : reading.switch flag.key = .ok next) :
    Sound level next := by
  obtain ⟨settled, hsettle, hnext⟩ := bind_eq_ok_iff.mp hswitch
  obtain ⟨hsettled, hpending, -⟩ := hsound.settle hsettle
  split at hnext
  · exact nomatch hnext
  · rw [← Except.ok.inj hnext]
    exact hsettled.append hpending (.switch hflag haction)

/-- An option that is met is a switch, or its value is awaited. -/
theorem Sound.meet (hsound : Sound level reading) (hflag : flag ∈ level.options)
    (hmeet : reading.meet flag = .ok next) : Sound level next := by
  unfold Reading.meet at hmeet
  split at hmeet
  · next haction => exact hsound.switch hflag haction hmeet
  · next parameter haction =>
    obtain ⟨settled, hsettle, hnext⟩ := bind_eq_ok_iff.mp hmeet
    obtain ⟨hsettled, hpending, -⟩ := hsound.settle hsettle
    rw [← Except.ok.inj hnext]
    exact hsettled.hold (seen_of_pending_eq_none hpending)
      (Level.mem_parameters_of_option hflag haction) none
  -- The options that ask for the version or for help end the reading.
  · obtain ⟨_, -, hnext⟩ := bind_eq_ok_iff.mp hmeet
    exact nomatch hnext
  · obtain ⟨_, -, hnext⟩ := bind_eq_ok_iff.mp hmeet
    exact nomatch hnext

/-- An option by its name is met, or it comes with its value. -/
theorem Sound.long (hsound : Sound level reading) {attached : Option String}
    (hlong : reading.long key attached = .ok next) : Sound level next := by
  unfold Reading.long at hlong
  rw [hsound.level_eq] at hlong
  split at hlong
  · exact nomatch hlong
  · next hfind => exact hsound.meet (List.mem_of_find?_eq_some hfind) hlong
  · next flag value hfind =>
    split at hlong
    · next parameter haction =>
      obtain ⟨settled, hsettle, htake⟩ := bind_eq_ok_iff.mp hlong
      obtain ⟨hsettled, hpending, -⟩ := hsound.settle hsettle
      obtain ⟨hcheck, rfl⟩ := take_eq_ok htake
      have hparameter :=
        Level.mem_parameters_of_option (List.mem_of_find?_eq_some hfind) haction
      exact hsettled.append hpending (.value hparameter hcheck)
    · exact nomatch hlong

theorem Sound.short (hsound : Sound level reading) {letters : List Char}
    (hshort : reading.short letters = .ok next) : Sound level next := by
  induction letters generalizing reading with
  | nil =>
    rw [← Except.ok.inj hshort]
    exact hsound
  | cons c rest ih =>
    -- The letters that follow are met in whatever the first one leaves.
    unfold Reading.short at hshort
    rw [hsound.level_eq] at hshort
    split at hshort
    · next flag hfind =>
      obtain ⟨met, hmeet, hrest⟩ := bind_eq_ok_iff.mp hshort
      exact ih (hsound.meet (List.mem_of_find?_eq_some hfind) hmeet) hrest
    · exact nomatch hshort

/-- An argument that is told by its order is the last one met, and the position moves on. -/
theorem Sound.positional (hsound : Sound level reading)
    (hpositional : reading.positional argument = .ok next) : Sound level next := by
  unfold Reading.positional at hpositional
  rw [hsound.level_eq] at hpositional
  split at hpositional
  · next parameter hnext =>
    obtain ⟨settled, hsettle, hresult⟩ := bind_eq_ok_iff.mp hpositional
    obtain ⟨hsettled, hpending, hposition⟩ := hsound.settle hsettle
    have hheld := hsettled.hold (seen_of_pending_eq_none hpending)
      (Level.mem_parameters_of_positional (List.mem_of_getElem? hnext)) (some argument)
    rw [← Except.ok.inj hresult]
    refine ⟨hheld.level_eq, hheld.found, hheld.pending, fun other hother => ?_⟩
    -- What is told by its order up to here was met before, or it is what has just been met.
    simp only [List.take_add_one, hnext, Option.toList_some] at hother
    rcases List.mem_append.mp hother with hbefore | hlast
    · exact hheld.met other (by rwa [← hposition] at hbefore)
    · rw [List.mem_singleton.mp hlast]
      exact ⟨argument, List.mem_append_right _ List.mem_cons_self⟩
  · split at hpositional
    · exact nomatch hpositional
    · split at hpositional
      · exact nomatch hpositional
      · exact nomatch hpositional

/-- An argument is the value that is awaited, or it is told by its order. -/
theorem Sound.plain (hsound : Sound level reading) (hplain : reading.plain argument = .ok next) :
    Sound level next := by
  unfold Reading.plain at hplain
  split at hplain
  · next parameter hawaited =>
    have hpending : reading.pending = some (parameter, none) := by
      unfold awaited? at hawaited
      split at hawaited
      · next hpending => rw [hpending, Option.some.inj hawaited]
      · exact nomatch hawaited
    rw [← Except.ok.inj hplain]
    exact hsound.hold (seen_of_awaited hpending) (hsound.pending _ _ hpending) (some argument)
  · exact hsound.positional hplain

/-- Reading one more argument keeps what is known. -/
theorem Sound.step (hsound : Sound level reading) (hstep : reading.step argument = .ok next) :
    Sound level next := by
  unfold Reading.step at hstep
  split at hstep
  · exact hsound.positional hstep
  split at hstep
  · exact hsound.plain hstep
  split at hstep
  · rw [← Except.ok.inj hstep]
    exact ⟨hsound.level_eq, hsound.found, hsound.pending, hsound.met⟩
  · exact hsound.long hstep
  · exact hsound.plain hstep
  · exact hsound.short hstep
  · exact hsound.plain hstep

/-! ## Whole command lines -/

theorem Sound.foldlM_step (hsound : Sound level reading) {arguments : List String}
    (hread : arguments.foldlM Reading.step reading = .ok next) : Sound level next := by
  induction arguments generalizing reading with
  | nil =>
    rw [← Except.ok.inj hread]
    exact hsound
  | cons argument rest ih =>
    rw [List.foldlM_cons] at hread
    obtain ⟨middle, hstep, hrest⟩ := bind_eq_ok_iff.mp hread
    exact ih (hsound.step hstep) hrest

/-- Arguments that are read to their end have yielded one for each that is told by its order. -/
theorem Sound.finish (hsound : Sound level reading) {found : List (String × String)}
    (hfinish : reading.finish = .ok found) :
    (∀ key value, (key, value) ∈ found → level.Admits key value) ∧
      ∀ parameter ∈ level.positionals, ∃ value, (parameter.key, value) ∈ found := by
  obtain ⟨settled, hsettle, hlast⟩ := bind_eq_ok_iff.mp hfinish
  obtain ⟨hsettled, hpending, -⟩ := hsound.settle hsettle
  split at hlast
  · exact nomatch hlast
  · next hposition =>
    rw [hsettled.level_eq] at hposition
    rw [← Except.ok.inj hlast]
    refine ⟨hsettled.found, fun parameter hparameter => ?_⟩
    obtain ⟨value, hseen⟩ := hsettled.met parameter (by
      rwa [List.take_of_length_le (Nat.not_lt.mp hposition)])
    simp only [seen, hpending] at hseen
    exact ⟨value, hseen⟩

end Reading

/-- The arguments of a command yield switches and values in their forms, and a value for each
argument that is told by its order. -/
theorem readLevel_sound {level : Level} {arguments : List String} {found : List (String × String)}
    (hread : readLevel level arguments = .ok found) :
    (∀ key value, (key, value) ∈ found → level.Admits key value) ∧
      ∀ parameter ∈ level.positionals, ∃ value, (parameter.key, value) ∈ found := by
  obtain ⟨reading, hfold, hfinish⟩ := bind_eq_ok_iff.mp hread
  exact ((Reading.sound_start level).foldlM_step hfold).finish hfinish

/-- A command line that is read comes to a command, whose arguments are read on its level. -/
theorem exists_readLevel_of_readFrom {levelOf : String → List String → Except Stop Level}
    {reading : Reading} {arguments : List String} {outer inner : List (String × String)}
    {name : String} (hread : readFrom levelOf reading arguments = .ok (outer, name, inner)) :
    ∃ level rest, levelOf name rest = .ok level ∧ readLevel level rest = .ok inner := by
  induction arguments generalizing reading with
  | nil =>
    obtain ⟨_, -, hrefuse⟩ := bind_eq_ok_iff.mp hread
    exact nomatch hrefuse
  | cons argument rest ih =>
    unfold readFrom at hread
    split at hread
    · obtain ⟨level, hlevel, hread⟩ := bind_eq_ok_iff.mp hread
      obtain ⟨found, hfound, hread⟩ := bind_eq_ok_iff.mp hread
      obtain ⟨_, -, hresult⟩ := bind_eq_ok_iff.mp hread
      obtain ⟨-, rfl, rfl⟩ : _ ∧ argument = name ∧ found = inner := by
        simpa using Except.ok.inj hresult
      exact ⟨level, rest, hlevel, hfound⟩
    · obtain ⟨next, -, hrest⟩ := bind_eq_ok_iff.mp hread
      exact ih hrest

/-! ## The file of a compile -/

theorem ne_empty_of_check {parameter : Parameter} {value : String}
    (hform : parameter.form = .path) (hcheck : parameter.check value = .ok ()) : value ≠ "" := by
  rintro rfl
  rw [Parameter.check, hform] at hcheck
  exact nomatch hcheck

/-- On the level of a compile the file is told by its order, and all that can be found by its name
is not empty. -/
theorem file_of_levels {level : Level} (hlevel : levels.lookup "compile" = some level) :
    (∃ parameter ∈ level.positionals, parameter.key = "file") ∧
      ∀ value, level.Admits "file" value → value ≠ "" := by
  obtain ⟨hpositional, hswitches, hforms⟩ :
      (∃ parameter ∈ level.positionals, parameter.key = "file") ∧
        (∀ flag ∈ level.options, flag.action = .switch → flag.key ≠ "file") ∧
        ∀ parameter ∈ level.parameters, parameter.key = "file" → parameter.form = .path := by
    -- The level is one of a fixed table, and so its parameters can be looked through.
    cases hlevel
    decide +kernel
  refine ⟨hpositional, fun value hadmits => ?_⟩
  generalize hkey : "file" = key at hadmits
  cases hadmits with
  | switch hflag haction => exact absurd hkey.symm (hswitches _ hflag haction)
  | value hparameter hcheck => exact ne_empty_of_check (hforms _ hparameter hkey.symm) hcheck

/-- A compile is given the name of a file. -/
theorem file_ne_nil_of_ofArguments {arguments compilerArgs : List String} {config : Option Path}
    {file : Path} {compiler : Option String} {force : Bool}
    (hparsed : Invocation.ofArguments arguments =
      .ok ⟨config, .compile file compiler compilerArgs force⟩) : file.bytes ≠ [] := by
  obtain ⟨⟨outer, name, inner⟩, hread, hresult⟩ := bind_eq_ok_iff.mp hparsed
  have hcommand := congrArg Invocation.command (Except.ok.inj hresult)
  obtain ⟨level, rest, hlevel, hinner⟩ := exists_readLevel_of_readFrom hread
  obtain ⟨hadmits, hmet⟩ := readLevel_sound hinner
  simp only [Command.ofFound] at hcommand
  split at hcommand
  · exact nomatch hcommand
  · have hlookup : levels.lookup "compile" = some level := by
      unfold levelOf at hlevel
      split at hlevel
      · next hfound => rw [hfound, Except.ok.inj hlevel]
      · exact nomatch hlevel
    obtain ⟨⟨parameter, hparameter, hkey⟩, hnames⟩ := file_of_levels hlookup
    -- A value has been found for the file, and the first one that was found is taken.
    obtain ⟨given, hgiven⟩ := hmet parameter hparameter
    rw [hkey] at hgiven
    obtain ⟨value, hvalue⟩ := Option.isSome_iff_exists.mp
      (List.lookup_isSome_iff.mpr ⟨("file", given), hgiven, beq_self_eq_true "file"⟩)
    obtain ⟨before, behind, hinner, -⟩ := List.lookup_eq_some_iff.mp hvalue
    have hmem : ("file", value) ∈ inner :=
      hinner ▸ List.mem_append_right before List.mem_cons_self
    have hfile : Path.ofText ((value? inner "file").getD "") = file :=
      (Command.compile.inj hcommand).1
    rw [value?, hvalue, Option.getD_some] at hfile
    rw [← hfile]
    exact fun hempty => hnames value (hadmits "file" value hmem) (Text.toBytes_injective hempty)
  · exact nomatch hcommand
  · exact nomatch hcommand
  · exact nomatch hcommand

end EditorBridge.CommandLine
