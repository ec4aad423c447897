import EditorBridge.Source

/-!
# Paths made absolute

The steps of a path are read off the parts between its slashes. So joining paths joins their steps,
and the absolute path a path stands for ends with the steps of the path itself. What is said about
the name at the end of a path, such as that it is the name of a Z file, is said about the absolute
path too.

## Main results

* `split_append_slash`, `steps_split_child`: the parts and steps of paths that are joined.
* `isAbsolute_of_absolute`: the absolute path that a path stands for is absolute.
* `components_of_absolute`: its components.
* `hasZExtension_of_absolute`: it is the path of a Z file if the path itself is.
-/

namespace EditorBridge.Path

open Text (Bytes)

/-! ## Parts and steps -/

theorem split_ne_nil (bytes : Bytes) : split bytes ≠ [] := by
  cases bytes with
  | nil => exact List.cons_ne_nil _ _
  | cons b rest =>
    rw [split]
    split
    · exact List.cons_ne_nil _ _
    · split <;> exact List.cons_ne_nil _ _

/-- A byte that is no slash belongs to the first part. -/
theorem split_cons_of_ne {b : UInt8} (hb : b ≠ slash) (rest : Bytes) :
    ∃ part parts, split rest = part :: parts ∧ split (b :: rest) = (b :: part) :: parts := by
  obtain ⟨part, parts, hparts⟩ := List.exists_cons_of_ne_nil (split_ne_nil rest)
  exact ⟨part, parts, hparts, by rw [split, if_neg hb, hparts]⟩

/-- A slash separates the parts before it from those behind it. -/
theorem split_append_slash (first second : Bytes) :
    split (first ++ slash :: second) = split first ++ split second := by
  induction first with
  | nil => rfl
  | cons b first ih =>
    by_cases hb : b = slash
    · subst hb
      simp only [List.cons_append, split, if_true, ih]
    · obtain ⟨part, parts, hparts, hwhole⟩ := split_cons_of_ne hb first
      rw [List.cons_append, split, if_neg hb, ih, hparts, hwhole]
      rfl

/-- No part holds a slash. -/
theorem slash_notMem_of_mem_split {bytes part : Bytes} (hpart : part ∈ split bytes) :
    slash ∉ part := by
  induction bytes generalizing part with
  | nil =>
    rw [List.mem_singleton.mp hpart]
    exact List.not_mem_nil
  | cons b rest ih =>
    by_cases hb : b = slash
    · rw [split, if_pos hb] at hpart
      rcases List.mem_cons.mp hpart with rfl | hrest
      · exact List.not_mem_nil
      · exact ih hrest
    · obtain ⟨first, parts, hparts, hwhole⟩ := split_cons_of_ne hb rest
      rw [hwhole] at hpart
      rw [hparts] at ih
      rcases List.mem_cons.mp hpart with rfl | hlater
      · rw [List.mem_cons, not_or]
        exact ⟨fun h => hb h.symm, ih List.mem_cons_self⟩
      · exact ih (List.mem_cons_of_mem _ hlater)

/-- Without a slash there is only one part. -/
theorem split_of_notMem {part : Bytes} (hpart : slash ∉ part) : split part = [part] := by
  induction part with
  | nil => rfl
  | cons b rest ih =>
    rw [List.mem_cons, not_or] at hpart
    rw [split, if_neg (Ne.symm hpart.1), ih hpart.2]

/-- A path that starts at the root holds a slash. -/
theorem isAbsolute_of_notMem {part : Bytes} (hpart : slash ∉ part) :
    isAbsolute ⟨part⟩ = false := by
  cases part with
  | nil => rfl
  | cons b rest =>
    have hb : b ≠ slash := fun h => hpart (h ▸ List.mem_cons_self)
    simpa [isAbsolute] using hb

/-- The parts of a path that name something. -/
def namingParts (bytes : Bytes) : List Bytes :=
  (split bytes).filter (!isVoid ·)

@[simp]
theorem steps_append (first second : List Bytes) :
    steps (first ++ second) = steps first ++ steps second := by
  simp [steps]

/-- Parts that name nothing are no steps. -/
theorem steps_namingParts (bytes : Bytes) : steps (namingParts bytes) = steps (split bytes) := by
  simp [steps, namingParts]

/-- An absolute path begins with a slash. -/
theorem exists_cons_of_isAbsolute {path : Path} (habsolute : path.isAbsolute = true) :
    ∃ rest, path.bytes = slash :: rest := by
  cases hbytes : path.bytes with
  | nil => simp [isAbsolute, hbytes] at habsolute
  | cons b rest => exact ⟨rest, by simpa [isAbsolute, hbytes] using habsolute⟩

theorem components_of_isAbsolute {path : Path} (habsolute : path.isAbsolute = true) :
    path.components = .root :: steps (split path.bytes) := by
  rw [components, if_pos habsolute]

/-- The components of a path are its steps, behind the place where it starts. -/
theorem exists_components_eq (path : Path) :
    ∃ start, path.components = start ++ steps (split path.bytes) ∧
      ∀ name, Component.name name ∉ start := by
  simp only [components]
  split
  · exact ⟨[.root], rfl, by simp⟩
  · split
    · exact ⟨[.current], rfl, by simp⟩
    · exact ⟨[], rfl, by simp⟩

/-- No step stands for the directory a path starts in. -/
theorem current_notMem_steps (parts : List Bytes) : Component.current ∉ steps parts := by
  intro hmem
  obtain ⟨part, -, hpart⟩ := List.mem_map.mp hmem
  unfold Component.ofPart at hpart
  split at hpart <;> exact nomatch hpart

/-- The steps of a relative path are its components but for the directory that it starts in. -/
theorem filter_components {path : Path} (hrelative : path.isAbsolute = false) :
    path.components.filter (· ≠ .current) = steps (split path.bytes) := by
  have hsteps : (steps (split path.bytes)).filter (· ≠ .current) = steps (split path.bytes) :=
    List.filter_eq_self.mpr fun component hcomponent =>
      decide_eq_true fun hcurrent => current_notMem_steps _ (hcurrent ▸ hcomponent)
  simp only [components, hrelative, Bool.false_eq_true, if_false]
  split
  · rwa [List.filter_cons_of_neg (by simp)]
  · exact hsteps

/-- A path without slashes has one component at most. -/
theorem length_components_le_one {part : Bytes} (hpart : slash ∉ part) :
    (components ⟨part⟩).length ≤ 1 := by
  simp only [components, isAbsolute_of_notMem hpart, split_of_notMem hpart, List.head?_cons,
    Option.some.injEq, Bool.false_eq_true, if_false]
  split
  · next hhere => rw [hhere]; exact Nat.le_refl 1
  · rw [steps, List.length_map]
    exact List.length_filter_le _ _

/-! ## Paths under a directory -/

theorem isAbsolute_child {directory : Path} (hdirectory : directory.isAbsolute = true)
    (path : Path) : (directory.child path).isAbsolute = true := by
  obtain ⟨rest, hrest⟩ := exists_cons_of_isAbsolute hdirectory
  unfold child
  split
  · assumption
  · split <;> simp [isAbsolute, hrest]

/-- The parts of a path under a directory that name something are those of the directory, and then
its own. -/
theorem namingParts_child {directory path : Path} (hpath : path.isAbsolute = false) :
    namingParts (directory.child path).bytes =
      namingParts directory.bytes ++ namingParts path.bytes := by
  rw [child, if_neg (Bool.eq_false_iff.mp hpath)]
  split
  · next hends =>
    rcases hends with hempty | hslash
    · rw [List.isEmpty_iff.mp hempty]
      rfl
    · -- The slash at the end of the directory already separates the two.
      obtain ⟨before, hbefore⟩ := List.getLast?_eq_some_iff.mp hslash
      simp only [namingParts, hbefore, List.append_assoc, List.singleton_append,
        split_append_slash, List.filter_append]
      rfl
  · simp only [namingParts, split_append_slash, List.filter_append]

/-- The steps of a path under a directory are those of the directory, and then its own. -/
theorem steps_split_child {directory path : Path} (hpath : path.isAbsolute = false) :
    steps (split (directory.child path).bytes) =
      steps (split directory.bytes) ++ steps (split path.bytes) := by
  have hparts := congrArg (List.map Component.ofPart) (@namingParts_child directory path hpath)
  rwa [List.map_append] at hparts

/-- The steps of parts that are put behind a directory one after the other. -/
theorem foldl_child (parts : List Bytes) (hparts : ∀ part ∈ parts, slash ∉ part)
    {directory : Path} (hdirectory : directory.isAbsolute = true) :
    let whole := parts.foldl (fun whole part => whole.child ⟨part⟩) directory
    whole.isAbsolute = true ∧
      steps (split whole.bytes) = steps (split directory.bytes) ++ steps parts := by
  induction parts generalizing directory with
  | nil => exact ⟨hdirectory, (List.append_nil _).symm⟩
  | cons part parts ih =>
    obtain ⟨hpart, hparts⟩ := List.forall_mem_cons.mp hparts
    obtain ⟨habsolute, hsteps⟩ := ih hparts (isAbsolute_child hdirectory ⟨part⟩)
    refine ⟨habsolute, hsteps.trans ?_⟩
    rw [steps_split_child (isAbsolute_of_notMem hpart), split_of_notMem hpart, List.append_assoc,
      ← steps_append]
    rfl

/-! ## The absolute path -/

theorem isAbsolute_of_parent? {path parent : Path} (hparent : path.parent? = some parent) :
    parent.isAbsolute = true := by
  simp only [parent?] at hparent
  split at hparent
  · exact nomatch hparent
  · rw [← Option.some.inj hparent]
    rfl

theorem isAbsolute_rootOf (bytes : Bytes) : isAbsolute ⟨rootOf bytes⟩ = true := by
  simp only [rootOf]
  split <;> rfl

theorem steps_split_rootOf (bytes : Bytes) : steps (split (rootOf bytes)) = [] := by
  simp only [rootOf]
  split <;> rfl

section Absolute

variable {ε : Type} {path whole : Path} {current : Except ε Path}

/-- What an absolute path is made of: the root or the current directory, the parts of the path that
name something, and its slash at the end. -/
theorem absolute_eq (path : Path) (current : Except ε Path) :
    path.absolute current =
      let joined := ((split path.bytes).filter (!isVoid ·)).foldl
        fun whole part => whole.child ⟨part⟩
      let ended := fun base =>
        if path.bytes.getLast? = some slash then (joined base).child ⟨[]⟩ else joined base
      if path.isAbsolute then .ok (ended ⟨rootOf path.bytes⟩) else current.map ended := by
  unfold absolute
  cases path.isAbsolute with
  | true => simp only [if_true]; split <;> rfl
  | false => cases current <;> simp only [Bool.false_eq_true, if_false] <;> split <;> rfl

/-- Where an absolute path goes on from: the root for an absolute path, and for a relative one the
current directory. -/
theorem eq_foldl_of_absolute (hwhole : path.absolute current = .ok whole) :
    ∃ base : Path, (if path.isAbsolute then base = ⟨rootOf path.bytes⟩ else current = .ok base) ∧
      let joined := (namingParts path.bytes).foldl (fun whole part => whole.child ⟨part⟩) base
      whole = if path.bytes.getLast? = some slash then joined.child ⟨[]⟩ else joined := by
  rw [absolute_eq] at hwhole
  cases hpath : path.isAbsolute with
  | true =>
    rw [hpath, if_pos rfl] at hwhole
    exact ⟨_, rfl, (Except.ok.inj hwhole).symm⟩
  | false =>
    rw [hpath, if_neg Bool.false_ne_true] at hwhole
    cases current with
    | error cause => exact nomatch hwhole
    | ok base => exact ⟨base, rfl, (Except.ok.inj hwhole).symm⟩

/-- No part that names something holds a slash. -/
theorem slash_notMem_of_mem_namingParts {bytes part : Bytes} (hpart : part ∈ namingParts bytes) :
    slash ∉ part :=
  slash_notMem_of_mem_split (List.mem_filter.mp hpart).1

/-- The absolute path that a path stands for goes on from the root, or from the current directory,
by the steps of the path. -/
theorem exists_base_of_absolute (hcurrent : ∀ base, current = .ok base → base.isAbsolute = true)
    (hwhole : path.absolute current = .ok whole) :
    ∃ base : Path, (if path.isAbsolute then base = ⟨rootOf path.bytes⟩ else current = .ok base) ∧
      base.isAbsolute = true ∧ whole.isAbsolute = true ∧
      steps (split whole.bytes) = steps (split base.bytes) ++ steps (split path.bytes) := by
  obtain ⟨base, hbase, hends⟩ := eq_foldl_of_absolute hwhole
  have hstart : base.isAbsolute = true := by
    split at hbase
    · rw [hbase]
      exact isAbsolute_rootOf path.bytes
    · exact hcurrent base hbase
  obtain ⟨habsolute, hsteps⟩ := foldl_child (namingParts path.bytes)
    (fun part hpart => slash_notMem_of_mem_namingParts hpart) hstart
  rw [steps_namingParts] at hsteps
  refine ⟨base, hbase, hstart, ?_⟩
  rw [hends]
  split
  · refine ⟨isAbsolute_child habsolute _, ?_⟩
    rw [steps_split_child rfl, hsteps]
    exact List.append_nil _
  · exact ⟨habsolute, hsteps⟩

/-- The absolute path that a path stands for is absolute. -/
theorem isAbsolute_of_absolute (hcurrent : ∀ base, current = .ok base → base.isAbsolute = true)
    (hwhole : path.absolute current = .ok whole) : whole.isAbsolute = true := by
  obtain ⟨-, -, -, habsolute, -⟩ := exists_base_of_absolute hcurrent hwhole
  exact habsolute

/-- An absolute path keeps its components, and a relative one is put behind the current
directory. -/
theorem components_of_absolute (hcurrent : ∀ base, current = .ok base → base.isAbsolute = true)
    (hwhole : path.absolute current = .ok whole) :
    if path.isAbsolute then whole.components = path.components
    else ∃ base, current = .ok base ∧
      whole.components = base.components ++ steps (split path.bytes) := by
  obtain ⟨base, hbase, hstart, habsolute, hsteps⟩ := exists_base_of_absolute hcurrent hwhole
  rw [components_of_isAbsolute habsolute, hsteps]
  split at hbase
  · next hpath =>
    rw [if_pos hpath, hbase, steps_split_rootOf, components_of_isAbsolute hpath]
    rfl
  · next hpath =>
    rw [if_neg hpath]
    exact ⟨base, hbase, by rw [components_of_isAbsolute hstart]; rfl⟩

/-- The name at the end of a path is the name at the end of the absolute path. -/
theorem fileName?_of_absolute (hcurrent : ∀ base, current = .ok base → base.isAbsolute = true)
    (hwhole : path.absolute current = .ok whole) {name : Bytes}
    (hname : path.fileName? = some name) : whole.fileName? = some name := by
  obtain ⟨base, -, -, habsolute, hsteps⟩ := exists_base_of_absolute hcurrent hwhole
  have hlast : path.components.getLast? = some (.name name) := by
    unfold fileName? at hname
    split at hname
    · next found hfound => rw [hfound, Option.some.inj hname]
    · exact nomatch hname
  -- The name is one of the steps, because a path does not start with a name.
  obtain ⟨start, hstart, hnames⟩ := exists_components_eq path
  have hstep : (steps (split path.bytes)).getLast? = some (.name name) := by
    rw [hstart, List.getLast?_append] at hlast
    rcases Option.or_eq_some_iff.mp hlast with hstep | ⟨-, hother⟩
    · exact hstep
    · exact absurd (List.mem_of_getLast? hother) (hnames name)
  have hend : whole.components.getLast? = some (.name name) := by
    rw [components_of_isAbsolute habsolute, hsteps, ← List.cons_append, List.getLast?_append,
      hstep]
    rfl
  rw [fileName?, hend]

/-- The absolute path of a Z file is the path of a Z file. -/
theorem hasZExtension_of_absolute
    (hcurrent : ∀ base, current = .ok base → base.isAbsolute = true)
    (hwhole : path.absolute current = .ok whole) (hz : path.hasZExtension = true) :
    whole.hasZExtension = true := by
  unfold hasZExtension extension? at hz ⊢
  cases hname : path.fileName? with
  | none => simp [hname] at hz
  | some name => rwa [fileName?_of_absolute hcurrent hwhole hname, ← hname]

end Absolute

end EditorBridge.Path
