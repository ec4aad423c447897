import EditorBridge.Program
import EditorBridge.Proofs.FileSystem
import EditorBridge.Proofs.Path

/-!
# How a program is looked up

A command with a slash is a path, and any other command is tried in one directory of the search path
after the other. A file that is found may still name an interpreter that is not there, and the
system reports that in the same words as a file that is missing. This module says when each of the
two is the case, and what the other lookup, which only asks for executable files, finds.

## Main definitions

* `LacksInterpreter`: a script whose interpreter cannot be found.
* `tried`: the paths at which a command is looked for.
* `Absent`, `Uninterpreted`: what there is at such a path when the lookup finds nothing there.
* `Unknown`: there is nothing at any of these paths.
* `ComesTo`: the search for a command comes to a path.

## Main results

* `start_eq_error_iff`: when a program cannot be started because something does not exist.
* `search_cases`: a search ends at a path that it comes to, or behind all directories.
* `find_eq_notFound_iff`: when a lookup fails because something does not exist.
* `exists_comesTo_iff`: a search comes to an executable file exactly if there is one.
* `isSome_locate?_iff`: when the other lookup finds something.
-/

namespace EditorBridge.Program

open Text (Bytes)

/-! ## Programs and their interpreters -/

/-- The interpreter of a program cannot be read off because something does not exist exactly if the
program does not exist. The other faults are about what stands at its path. -/
theorem interpreterAt_eq_error_iff {world : World} {path : Bytes} {cause : SystemError}
    (hcause : cause = .notFound ∨ cause = .notADirectory) :
    interpreterAt world path = .error cause ↔
      world.files.resolve world.current ⟨path⟩ = .error cause := by
  have hother : cause ≠ .permissionDenied ∧ cause ≠ .notAProgram := by
    rcases hcause with rfl | rfl <;> decide
  rw [interpreterAt, bind_eq_error_iff]
  refine or_iff_left ?_
  rintro ⟨⟨place, _ | ⟨contents, _ | _⟩ | _⟩, -, hfault⟩
  · exact hother.1 (Except.error.inj hfault).symm
  · exact hother.1 (Except.error.inj hfault).symm
  · -- An executable file without an interpreter is no program.
    cases hinterpreter : interpreter? contents with
    | none =>
      simp only [hinterpreter] at hfault
      exact hother.2 (Except.error.inj hfault).symm
    | some interpreter =>
      simp only [hinterpreter] at hfault
      exact nomatch hfault
  · exact nomatch hfault

/-- The program at a path is a script whose interpreter is not there for the given cause, or is a
script itself whose interpreter is not there, and so on to the given depth. -/
def LacksInterpreter (world : World) (cause : SystemError) : Nat → Bytes → Prop
  | 0, _ => False
  | depth + 1, path => ∃ name argument, interpreterAt world path = .ok (some (name, argument)) ∧
    (world.files.resolve world.current ⟨name⟩ = .error cause ∨
      LacksInterpreter world cause depth name)

/-- A program cannot be started because something does not exist: the program, or an interpreter
that it needs. -/
theorem start_eq_error_iff {world : World} {cause : SystemError}
    (hcause : cause = .notFound ∨ cause = .notADirectory) (depth : Nat) (path : Bytes)
    (words : List Bytes) :
    start world depth path words = .error cause ↔
      world.files.resolve world.current ⟨path⟩ = .error cause ∨
        LacksInterpreter world cause depth path := by
  induction depth generalizing path words with
  | zero =>
    rw [start, bind_eq_error_iff, interpreterAt_eq_error_iff hcause]
    refine or_congr_right (iff_of_false ?_ id)
    rintro ⟨_ | ⟨name, argument⟩, -, hfault⟩
    · exact nomatch hfault
    · rcases hcause with rfl | rfl <;> exact nomatch hfault
  | succ depth ih =>
    rw [start, bind_eq_error_iff, interpreterAt_eq_error_iff hcause, LacksInterpreter]
    refine or_congr_right ⟨?_, ?_⟩
    · rintro ⟨_ | ⟨name, argument⟩, hat, hfault⟩
      · exact nomatch hfault
      · exact ⟨name, argument, hat, (ih name _).mp hfault⟩
    · rintro ⟨name, argument, hat, hlacks⟩
      exact ⟨some (name, argument), hat, (ih name _).mpr hlacks⟩

/-! ## Searches -/

/-- The faults after which a search goes on with the next directory. -/
def Skips (cause : SystemError) : Prop :=
  cause = .permissionDenied ∨ cause = .notFound ∨ cause = .notADirectory

/-- A search for a name in some directories comes to a path: the program in every directory before
it cannot be started, for a fault that is skipped. -/
inductive ComesTo (world : World) (name : Bytes) (words : List Bytes) : List Path → Path → Prop
  /-- The path is the first that is tried. -/
  | here (directory : Path) (rest : List Path) :
    ComesTo world name words (directory :: rest) (directory.child ⟨name⟩)
  /-- The first directory is skipped. -/
  | later {directory : Path} {rest : List Path} {path : Path} {cause : SystemError}
    (hskips : Skips cause)
    (hfault : start world nesting (directory.child ⟨name⟩).bytes words = .error cause)
    (hrest : ComesTo world name words rest path) : ComesTo world name words (directory :: rest) path

section Search

variable {world : World} {name : Bytes} {words : List Bytes}

/-- A search comes to places in its directories only. -/
theorem ComesTo.exists_mem {directories : List Path} {path : Path}
    (hcomes : ComesTo world name words directories path) :
    ∃ directory ∈ directories, path = directory.child ⟨name⟩ := by
  induction hcomes with
  | here directory rest => exact ⟨directory, List.mem_cons_self, rfl⟩
  | later _ _ _ ih =>
    obtain ⟨found, hmem, hpath⟩ := ih
    exact ⟨found, List.mem_cons_of_mem _ hmem, hpath⟩

/-- A search skips a directory, and remembers that a program there was denied. -/
theorem search_cons_of_skips {directory : Path} {cause : SystemError} (hskips : Skips cause)
    (hfault : start world nesting (directory.child ⟨name⟩).bytes words = .error cause)
    (denied : Bool) (rest : List Path) :
    search world name words denied (directory :: rest) =
      search world name words (denied || decide (cause = .permissionDenied)) rest := by
  rcases hskips with rfl | rfl | rfl
  · simp [search, hfault]
  · simp [search, hfault]
  · simp [search, hfault]

/-- A search ends where it cannot skip what it finds. -/
theorem search_cons_of_not_skips {directory : Path}
    (hends : ∀ cause, start world nesting (directory.child ⟨name⟩).bytes words = .error cause →
      ¬Skips cause) (denied : Bool) (rest : List Path) :
    search world name words denied (directory :: rest) =
      start world nesting (directory.child ⟨name⟩).bytes words := by
  rw [search]
  split
  · next hfault => exact absurd (.inl rfl) (hends _ hfault)
  · next hfault => exact absurd (.inr (.inl rfl)) (hends _ hfault)
  · next hfault => exact absurd (.inr (.inr rfl)) (hends _ hfault)
  · rfl

/-- A search ends at a path that it comes to and cannot skip. Or it skips all directories, and then
it fails because a program was denied, or else because there is none. -/
theorem search_cases (world : World) (name : Bytes) (words : List Bytes) (denied : Bool)
    (directories : List Path) :
    (∃ path, ComesTo world name words directories path ∧
      search world name words denied directories = start world nesting path.bytes words ∧
      ∀ cause, start world nesting path.bytes words = .error cause → ¬Skips cause) ∨
    (∀ directory ∈ directories, ∃ cause, Skips cause ∧
      start world nesting (directory.child ⟨name⟩).bytes words = .error cause) ∧
    (search world name words denied directories = .error .permissionDenied ∧
        (denied = true ∨ ∃ directory ∈ directories,
          start world nesting (directory.child ⟨name⟩).bytes words = .error .permissionDenied) ∨
      search world name words denied directories = .error .notFound ∧ denied = false ∧
        ∀ directory ∈ directories,
          start world nesting (directory.child ⟨name⟩).bytes words ≠ .error .permissionDenied) := by
  induction directories generalizing denied with
  | nil =>
    refine .inr ⟨List.forall_mem_nil _, ?_⟩
    cases denied with
    | true => exact .inl ⟨rfl, .inl rfl⟩
    | false => exact .inr ⟨rfl, rfl, List.forall_mem_nil _⟩
  | cons directory rest ih =>
    by_cases hskipped : ∃ cause, Skips cause ∧
        start world nesting (directory.child ⟨name⟩).bytes words = .error cause
    · obtain ⟨cause, hskips, hfault⟩ := hskipped
      rw [search_cons_of_skips hskips hfault]
      obtain ⟨path, hcomes, hend⟩ | ⟨hrest, hend⟩ := ih (denied || decide (cause = .permissionDenied))
      · exact .inl ⟨path, .later hskips hfault hcomes, hend⟩
      · refine .inr ⟨List.forall_mem_cons.mpr ⟨⟨cause, hskips, hfault⟩, hrest⟩, ?_⟩
        -- The denial that is remembered is the one handed in, or that of the first directory.
        obtain ⟨hsearch, hdenied⟩ | ⟨hsearch, hdenied, hothers⟩ := hend
        · refine .inl ⟨hsearch, ?_⟩
          rw [Bool.or_eq_true, decide_eq_true_iff] at hdenied
          obtain (hbefore | rfl) | ⟨found, hmem, hfound⟩ := hdenied
          · exact .inl hbefore
          · exact .inr ⟨directory, List.mem_cons_self, hfault⟩
          · exact .inr ⟨found, List.mem_cons_of_mem _ hmem, hfound⟩
        · rw [Bool.or_eq_false_iff, decide_eq_false_iff_not] at hdenied
          refine .inr ⟨hsearch, hdenied.1, List.forall_mem_cons.mpr ⟨fun hother => ?_, hothers⟩⟩
          rw [hfault] at hother
          exact hdenied.2 (Except.error.inj hother)
    · have hends : ∀ cause,
          start world nesting (directory.child ⟨name⟩).bytes words = .error cause →
            ¬Skips cause :=
        fun cause hfault hskips => hskipped ⟨cause, hskips, hfault⟩
      exact .inl ⟨_, .here directory rest, search_cons_of_not_skips hends denied rest, hends⟩

/-- A search finds nothing exactly if in every directory a part of the path, or of the path of an
interpreter, does not exist or is no directory. -/
theorem search_eq_notFound_iff {directories : List Path} :
    search world name words false directories = .error .notFound ↔
      ∀ directory ∈ directories, ∃ cause, (cause = .notFound ∨ cause = .notADirectory) ∧
        start world nesting (directory.child ⟨name⟩).bytes words = .error cause := by
  obtain ⟨path, hcomes, hsearch, hends⟩ | ⟨hskipped, hend⟩ :=
    search_cases world name words false directories
  · rw [hsearch]
    -- What a search ends with is none of the faults that it skips.
    constructor
    · intro hfault
      exact absurd (.inr (.inl rfl)) (hends _ hfault)
    · intro habsent
      obtain ⟨directory, hmem, rfl⟩ := hcomes.exists_mem
      obtain ⟨cause, hcause, hfault⟩ := habsent directory hmem
      exact absurd (.inr hcause) (hends cause hfault)
  · obtain ⟨hsearch, hdenied⟩ | ⟨hsearch, -, hothers⟩ := hend
    · rw [hsearch]
      refine iff_of_false (fun h => nomatch h) fun habsent => ?_
      obtain hbefore | ⟨directory, hmem, hdirectory⟩ := hdenied
      · exact nomatch hbefore
      · obtain ⟨cause, hcause, hfault⟩ := habsent directory hmem
        rw [hdirectory] at hfault
        rcases hcause with rfl | rfl <;> exact nomatch hfault
    · refine iff_of_true hsearch fun directory hmem => ?_
      obtain ⟨cause, rfl | hcause, hfault⟩ := hskipped directory hmem
      · exact absurd hfault (hothers directory hmem)
      · exact ⟨cause, hcause, hfault⟩

end Search

/-! ## Commands that name no program -/

/-- Whether a command can be looked up at all: a name must not be too long. -/
def IsNameable (command : Bytes) : Prop :=
  command ≠ [] ∧ (Path.slash ∈ command ∨ command.length ≤ FileSystem.nameLimit)

/-- The paths at which a command is looked for. -/
def tried (world : World) (command : Bytes) : List Bytes :=
  if Path.slash ∈ command then [command]
  else world.searchPath.map fun directory => (directory.child ⟨command⟩).bytes

/-- The faults at such a path that count as a file that does not exist. Where only one path is
tried, a part of it that is no directory is a fault of its own. -/
def IsMissing (command : Bytes) (cause : SystemError) : Prop :=
  cause = .notFound ∨ cause = .notADirectory ∧ Path.slash ∉ command

/-- Nothing stands at a path where a command is looked for. -/
def Absent (world : World) (command path : Bytes) : Prop :=
  ∃ cause, IsMissing command cause ∧ world.files.resolve world.current ⟨path⟩ = .error cause

/-- A script stands at a path where a command is looked for, but an interpreter for it is missing. -/
def Uninterpreted (world : World) (command path : Bytes) : Prop :=
  ∃ cause, IsMissing command cause ∧ LacksInterpreter world cause nesting path

/-- There is nothing at any path where a command is looked for. -/
def Unknown (world : World) (command : Bytes) : Prop :=
  command = [] ∨ IsNameable command ∧ ∀ path ∈ tried world command, Absent world command path

/-- There are files where a command is looked for, but all are scripts without interpreters. -/
def OnlyUninterpreted (world : World) (command : Bytes) : Prop :=
  IsNameable command ∧ (∃ path ∈ tried world command, Uninterpreted world command path) ∧
    ∀ path ∈ tried world command, Absent world command path ∨ Uninterpreted world command path

theorem IsMissing.notFound_or_notADirectory {command : Bytes} {cause : SystemError}
    (hmissing : IsMissing command cause) : cause = .notFound ∨ cause = .notADirectory :=
  hmissing.imp_right And.left

/-- The two ways in which a program can fail to be there. -/
theorem exists_isMissing_start_iff {world : World} {command path : Bytes} {words : List Bytes} :
    (∃ cause, IsMissing command cause ∧ start world nesting path words = .error cause) ↔
      Absent world command path ∨ Uninterpreted world command path := by
  constructor
  · rintro ⟨cause, hmissing, hfault⟩
    rw [start_eq_error_iff hmissing.notFound_or_notADirectory] at hfault
    exact hfault.imp (fun h => ⟨cause, hmissing, h⟩) fun h => ⟨cause, hmissing, h⟩
  · rintro (⟨cause, hmissing, hfault⟩ | ⟨cause, hmissing, hfault⟩)
    · exact ⟨cause, hmissing, (start_eq_error_iff hmissing.notFound_or_notADirectory _ _ _).mpr
        (.inl hfault)⟩
    · exact ⟨cause, hmissing, (start_eq_error_iff hmissing.notFound_or_notADirectory _ _ _).mpr
        (.inr hfault)⟩

/-- What is done with a command that can be looked up. -/
theorem find_eq_notFound_iff_forall {world : World} {command : Bytes} {arguments : List Bytes} :
    find world command arguments = .error .notFound ↔
      command = [] ∨ IsNameable command ∧ ∀ path ∈ tried world command,
        ∃ cause, IsMissing command cause ∧
          start world nesting path (command :: arguments) = .error cause := by
  unfold find IsNameable
  by_cases hempty : command = []
  · subst hempty
    simp
  rw [if_neg (by simpa using hempty)]
  by_cases hslash : Path.slash ∈ command
  · -- A path is tried at one place only.
    simp [hempty, hslash, tried, IsMissing]
  rw [if_neg (by simpa using hslash)]
  by_cases hlength : FileSystem.nameLimit < command.length
  · simp [hempty, hslash, hlength, Nat.not_le.mpr hlength]
  · -- A search counts a part that is no directory as missing, too.
    rw [if_neg hlength, search_eq_notFound_iff]
    simp [hempty, hslash, Nat.not_lt.mp hlength, tried, IsMissing]

/-- A lookup fails because something does not exist in two cases: there is no file by the name of
the command, or there are only scripts whose interpreters are missing. -/
theorem find_eq_notFound_iff {world : World} {command : Bytes} {arguments : List Bytes} :
    find world command arguments = .error .notFound ↔
      Unknown world command ∨ OnlyUninterpreted world command := by
  rw [find_eq_notFound_iff_forall]
  simp only [exists_isMissing_start_iff, Unknown, OnlyUninterpreted]
  constructor
  · rintro (hempty | ⟨hnameable, hmissing⟩)
    · exact .inl (.inl hempty)
    -- One script is enough for the second case, and without one the first is left.
    by_cases hscript : ∃ path ∈ tried world command, Uninterpreted world command path
    · exact .inr ⟨hnameable, hscript, hmissing⟩
    · refine .inl (.inr ⟨hnameable, fun path hpath => ?_⟩)
      exact (hmissing path hpath).resolve_right fun h => hscript ⟨path, hpath, h⟩
  · rintro ((hempty | ⟨hnameable, habsent⟩) | ⟨hnameable, -, hmissing⟩)
    · exact .inl hempty
    · exact .inr ⟨hnameable, fun path hpath => .inl (habsent path hpath)⟩
    · exact .inr ⟨hnameable, hmissing⟩

/-! ## Executable files -/

/-- A program that is no executable file is skipped by a search, unless its path is too long. -/
theorem start_of_isExecutable_eq_false {world : World} {path : Path}
    (hexecutable : isExecutable world path = false)
    (hlength : world.files.resolve world.current path ≠ .error .nameTooLong) (depth : Nat)
    (words : List Bytes) :
    ∃ cause, Skips cause ∧ start world depth path.bytes words = .error cause := by
  suffices hat : ∃ cause, Skips cause ∧ interpreterAt world path.bytes = .error cause by
    obtain ⟨cause, hskips, hat⟩ := hat
    exact ⟨cause, hskips, by rw [start.eq_def, hat]; rfl⟩
  unfold isExecutable at hexecutable
  unfold interpreterAt
  cases hresolve : world.files.resolve world.current path with
  | error cause =>
    refine ⟨cause, ?_, rfl⟩
    rcases FileSystem.resolve_eq_error_cases hresolve with rfl | rfl | rfl
    · exact .inr (.inl rfl)
    · exact .inr (.inr rfl)
    · exact absurd hresolve hlength
  | ok found =>
    -- What stands at the path is no executable file, and all else is denied.
    rw [hresolve] at hexecutable
    obtain ⟨place, _ | ⟨contents, _ | _⟩ | _⟩ := found
    · exact ⟨.permissionDenied, .inl rfl, rfl⟩
    · exact ⟨.permissionDenied, .inl rfl, rfl⟩
    · exact nomatch hexecutable
    · exact nomatch hexecutable

/-- No file has an empty name, because its path ends with the slash behind its directory. -/
theorem isExecutable_child_nil (world : World) (directory : Path) :
    isExecutable world (directory.child ⟨[]⟩) = false := by
  have hends : (directory.child ⟨[]⟩).bytes = [] ∨
      ∃ before, (directory.child ⟨[]⟩).bytes = before ++ [Path.slash] := by
    have hrelative : ¬Path.isAbsolute ⟨[]⟩ = true := Bool.false_ne_true
    rw [Path.child, if_neg hrelative]
    split
    · next hends =>
      rw [List.append_nil]
      exact hends.imp List.isEmpty_iff.mp List.getLast?_eq_some_iff.mp
    · exact .inr ⟨directory.bytes, rfl⟩
  unfold isExecutable
  cases hresolve : world.files.resolve world.current (directory.child ⟨[]⟩) with
  | error cause => rfl
  | ok found =>
    obtain ⟨place, hlocate, hnode⟩ := bind_eq_ok_iff.mp hresolve
    rw [FileSystem.locate] at hlocate
    obtain hempty | ⟨before, hbytes⟩ := hends
    · rw [hempty] at hlocate
      cases hlocate
    · split at hlocate
      · cases hlocate
      split at hlocate
      · cases hlocate
      -- The part behind the last slash is empty.
      · rw [hbytes, Path.split_append_slash] at hlocate
        rw [FileSystem.node?_of_follow_append_void hlocate] at hnode
        rw [← Except.ok.inj hnode]

/-- A search comes to an executable file exactly if there is one in its directories. -/
theorem exists_comesTo_iff {world : World} {name : Bytes} {words : List Bytes}
    {directories : List Path}
    (hlength : ∀ directory ∈ directories,
      world.files.resolve world.current (directory.child ⟨name⟩) ≠ .error .nameTooLong) :
    (∃ path, ComesTo world name words directories path ∧ isExecutable world path = true) ↔
      ∃ directory ∈ directories, isExecutable world (directory.child ⟨name⟩) = true := by
  constructor
  · rintro ⟨path, hcomes, hexecutable⟩
    obtain ⟨directory, hmem, rfl⟩ := hcomes.exists_mem
    exact ⟨directory, hmem, hexecutable⟩
  · rintro ⟨directory, hmem, hexecutable⟩
    -- The search comes to the first directory with such a file, because it skips those before.
    induction directories with
    | nil => exact nomatch hmem
    | cons first rest ih =>
      obtain ⟨hfirst, hrest⟩ := List.forall_mem_cons.mp hlength
      cases hhere : isExecutable world (first.child ⟨name⟩) with
      | true => exact ⟨_, .here first rest, hhere⟩
      | false =>
        obtain rfl | hlater := List.mem_cons.mp hmem
        · rw [hhere] at hexecutable
          exact nomatch hexecutable
        · obtain ⟨cause, hskips, hfault⟩ :=
            start_of_isExecutable_eq_false hhere hfirst nesting words
          obtain ⟨path, hcomes, hfound⟩ := ih hrest hlater
          exact ⟨path, .later hskips hfault hcomes, hfound⟩

/-- What is started is an executable file that the search comes to. -/
theorem exists_comesTo_of_search_eq_ok {world : World} {name : Bytes} {words started : List Bytes}
    {denied : Bool} {directories : List Path}
    (hlength : ∀ directory ∈ directories,
      world.files.resolve world.current (directory.child ⟨name⟩) ≠ .error .nameTooLong)
    (hsearch : search world name words denied directories = .ok started) :
    ∃ path, ComesTo world name words directories path ∧ isExecutable world path = true := by
  obtain ⟨path, hcomes, hend, hends⟩ | ⟨-, hend⟩ :=
    search_cases world name words denied directories
  · refine ⟨path, hcomes, ?_⟩
    cases hexecutable : isExecutable world path with
    | true => rfl
    | false =>
      obtain ⟨directory, hmem, rfl⟩ := hcomes.exists_mem
      obtain ⟨cause, hskips, hfault⟩ :=
        start_of_isExecutable_eq_false hexecutable (hlength directory hmem) nesting words
      exact absurd hskips (hends cause hfault)
  · obtain ⟨hfails, -⟩ | ⟨hfails, -⟩ := hend
    · exact nomatch hfails.symm.trans hsearch
    · exact nomatch hfails.symm.trans hsearch

/-- A command without slashes that is found was found by a search. -/
theorem search_of_find_eq_ok {world : World} {command : Bytes} {arguments words : List Bytes}
    (hslash : Path.slash ∉ command) (hfind : find world command arguments = .ok words) :
    search world command (command :: arguments) false world.searchPath = .ok words := by
  unfold find at hfind
  split at hfind
  · exact nomatch hfind
  split at hfind
  · next hcontains => exact absurd (List.contains_iff_mem.mp hcontains) hslash
  split at hfind
  · exact nomatch hfind
  · exact hfind

/-- The other lookup finds a command without slashes if some directory of the search path holds an
executable file by its name. -/
theorem isSome_locate?_iff {world : World} {command : Bytes} (hslash : Path.slash ∉ command) :
    (locate? world command).isSome = true ↔
      0 ∉ command ∧ ∃ directory ∈ world.searchPath,
        isExecutable world (directory.child ⟨command⟩) = true := by
  have hplaces : candidates world ⟨command⟩ = world.searchPath.map (·.child ⟨command⟩) := by
    have hshort : decide (1 < (Path.components ⟨command⟩).length) = false :=
      decide_eq_false (Nat.not_lt.mpr (Path.length_components_le_one hslash))
    rw [candidates, hshort]
    split
    · next h => exact nomatch h
    · rfl
  rw [locate?, hplaces]
  by_cases hnul : (0 : UInt8) ∈ command
  · simp [hnul]
  · simp [hnul]

end EditorBridge.Program
