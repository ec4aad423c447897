import EditorBridge.CommandLine.Run
import EditorBridge.Proofs.Compile.Request
import EditorBridge.Proofs.Preparation
import EditorBridge.Proofs.Text.Blank
import EditorBridge.Proofs.Text.Utf8

/-!
# What is detected and what is compiled with

Detecting the compiler and compiling with it look the same setting up in two ways. Detecting takes
the configured name as it stands, while a request takes it without the blanks around it, and the
program of a request is searched for from the directory of the source file. So the two speak of the
same compiler only where there are no blanks around its name. For a name without slashes they then
find the same files, if the directories of the search path do not depend on the current one.

## Main definitions

* `SearchesAlike`: the search for a name does not depend on the current directory.

## Main results

* `code_runDetect_eq_zero_iff`: when a compiler is detected.
* `detected_and_compiled`: how detecting relates to the requests under the same settings.
* `padded_compiler_not_detected`: a compiler that requests name, and that is not detected.
-/

namespace EditorBridge

open Text (Bytes)
open Compile (Request)

namespace CommandLine

/-! ## Detecting -/

/-- A compiler is detected exactly if the configured name is found as it stands. -/
theorem code_runDetect_eq_zero_iff {world : World} {config : Option Path} {settings : Settings}
    (hsettings : loadSettings world config = .ok settings) (overrides : Settings.Patch) :
    (runDetect world config overrides).code = 0 ↔
      (Program.locate? world (Text.toBytes (overrides.apply settings).compilerPath)).isSome =
        true := by
  rw [runDetect, hsettings]
  cases hfound : Program.locate? world (Text.toBytes (overrides.apply settings).compilerPath) with
  | none => simp [hfound]
  | some path => simp [hfound]

/-! ## Requests under the same settings -/

/-- The program of a request is the configured name if there are no blanks around that. -/
theorem program_invocation_eq_iff {file : Path} {settings : Settings}
    {current : Except SystemError Path} {request : Request}
    (hmake : Request.make file settings current = .ok request) :
    request.invocation.program = Text.toBytes settings.compilerPath ↔
      Text.trim settings.compilerPath = settings.compilerPath := by
  rw [Request.program_invocation, Request.compilerCommand_of_make hmake]
  exact Text.toBytes_injective.eq_iff

/-- The name in a request that is refused for its compiler consists of blanks. -/
theorem isBlank_of_emptyCompiler {file : Path} {settings : Settings}
    {current : Except SystemError Path}
    (hmake : Request.make file settings current = .error .emptyCompiler) :
    ∀ c ∈ settings.compilerPath.toList, Text.isBlank c = true := by
  refine Text.trim_eq_empty_iff.mp ?_
  rw [Request.make_eq] at hmake
  split at hmake
  · exact nomatch hmake
  split at hmake
  · assumption
  · split at hmake
    · exact nomatch Except.error.inj hmake
    · exact nomatch hmake

/-- A name of blanks holds neither a slash nor the byte that ends names. -/
theorem notMem_toBytes_of_isBlank {text : String}
    (hblank : ∀ c ∈ text.toList, Text.isBlank c = true) :
    Path.slash ∉ Text.toBytes text ∧ 0 ∉ Text.toBytes text := by
  constructor
  · intro hmem
    exact absurd (hblank _ (Text.ofNat_mem_of_mem_toBytes hmem (by decide))) (by decide)
  · intro hmem
    exact absurd (hblank _ (Text.ofNat_mem_of_mem_toBytes hmem (by decide))) (by decide)

/-- A compiler with a blank name is detected if there is a file by that name, which is not empty. -/
theorem isSome_locate?_of_isBlank {world : World} {text : String}
    (hblank : ∀ c ∈ text.toList, Text.isBlank c = true) :
    (Program.locate? world (Text.toBytes text)).isSome = true ↔
      text ≠ "" ∧ ∃ place ∈ world.searchPath,
        Program.isExecutable world (place.child (.ofText text)) = true := by
  obtain ⟨hslash, hnul⟩ := notMem_toBytes_of_isBlank hblank
  rw [Program.isSome_locate?_iff hslash]
  constructor
  · rintro ⟨-, place, hplace, hexecutable⟩
    refine ⟨?_, place, hplace, hexecutable⟩
    rintro rfl
    -- The path of an empty name ends with a slash, and so it is not the path of a file.
    rw [show Text.toBytes "" = [] from rfl, Program.isExecutable_child_nil] at hexecutable
    exact nomatch hexecutable
  · rintro ⟨-, hfound⟩
    exact ⟨hnul, hfound⟩

/-- The search for a name leads to the same files from every directory, and to no path that is too
long. -/
def SearchesAlike (world : World) (name : Bytes) : Prop :=
  ∀ place ∈ world.searchPath, place.isAbsolute = true ∧
    world.files.resolve world.current (place.child ⟨name⟩) ≠ .error .nameTooLong

section Inside

variable {world inside : World} {directory : Path} {name : Bytes} {words : List Bytes}

/-- In the directory of a request there are the same files to search for. -/
theorem SearchesAlike.of_enter (hplaces : SearchesAlike world name)
    (henter : world.enter directory = .ok inside) :
    SearchesAlike inside name ∧ ∀ place ∈ world.searchPath,
      Program.isExecutable inside (place.child ⟨name⟩) =
        Program.isExecutable world (place.child ⟨name⟩) := by
  obtain ⟨location, rfl⟩ := World.exists_eq_of_enter henter
  -- All paths that are tried are absolute.
  have hresolve : ∀ place ∈ world.searchPath,
      world.files.resolve location (place.child ⟨name⟩) =
        world.files.resolve world.current (place.child ⟨name⟩) := by
    intro place hplace
    exact FileSystem.resolve_of_isAbsolute (Path.isAbsolute_child (hplaces place hplace).1 _) _ _ _
  constructor
  · intro place hplace
    refine ⟨(hplaces place hplace).1, ?_⟩
    change world.files.resolve location _ ≠ _
    rw [hresolve place hplace]
    exact (hplaces place hplace).2
  · intro place hplace
    simp only [Program.isExecutable]
    rw [hresolve place hplace]

/-- From the directory of a request the search comes to an executable file exactly if there is one. -/
theorem SearchesAlike.exists_comesTo_iff (hplaces : SearchesAlike world name)
    (henter : world.enter directory = .ok inside) :
    (∃ path, Program.ComesTo inside name words inside.searchPath path ∧
        Program.isExecutable inside path = true) ↔
      ∃ place ∈ world.searchPath, Program.isExecutable world (place.child ⟨name⟩) = true := by
  obtain ⟨hinside, hexecutable⟩ := hplaces.of_enter henter
  have hpath : inside.searchPath = world.searchPath := by
    obtain ⟨location, rfl⟩ := World.exists_eq_of_enter henter
    rfl
  rw [Program.exists_comesTo_iff fun place hplace => (hinside place hplace).2, hpath]
  refine exists_congr fun place => and_congr_right fun hplace => ?_
  rw [hexecutable place hplace]

end Inside

/-- Detecting the compiler looks up the configured name exactly as it stands. A request under the
same settings names it without the blanks around it, which is the same name if there are no such
blanks. Where the name is blank, and so no request can be made, a compiler is detected if a file with
that blank name is on the search path, but never by an empty name. And for a name without slashes and
without blanks around it, whose search does not depend on the directory, detecting succeeds exactly
if the search of the request comes to an executable file; so whatever is started is detected. -/
theorem detected_and_compiled {world : World} {config : Option Path} {settings : Settings}
    (hsettings : loadSettings world config = .ok settings) (overrides : Settings.Patch) :
    let configured := overrides.apply settings
    let name := Text.toBytes configured.compilerPath
    let detected := (runDetect world config overrides).code = 0
    (detected ↔ (Program.locate? world name).isSome = true) ∧
    (∀ file current request, Request.make file configured current = .ok request →
      request.compilerCommand = Text.trim configured.compilerPath ∧
      (request.invocation.program = name ↔
        (∀ c, configured.compilerPath.toList.head? = some c → Text.isBlank c = false) ∧
        ∀ c, configured.compilerPath.toList.getLast? = some c → Text.isBlank c = false)) ∧
    (∀ file current, Request.make file configured current = .error .emptyCompiler →
      (detected ↔ configured.compilerPath ≠ "" ∧ ∃ place ∈ world.searchPath,
        Program.isExecutable world (place.child (.ofText configured.compilerPath)) = true)) ∧
    (Text.trim configured.compilerPath = configured.compilerPath → Path.slash ∉ name →
      SearchesAlike world name → ∀ file current request,
        Request.make file configured current = .ok request →
        (∀ inside, world.enter request.workingDirectory = .ok inside →
          (detected ↔ 0 ∉ name ∧ ∃ path,
            Program.ComesTo inside request.invocation.program
              (request.invocation.program :: request.invocation.arguments) inside.searchPath path ∧
            Program.isExecutable inside path = true)) ∧
        ((∃ started, world.prepare request.invocation = .ok started) → detected)) := by
  intro configured name detected
  have hdetected : detected ↔ (Program.locate? world name).isSome = true :=
    code_runDetect_eq_zero_iff hsettings overrides
  refine ⟨hdetected, ?_, ?_, ?_⟩
  · intro file current request hmake
    refine ⟨Request.compilerCommand_of_make hmake, ?_⟩
    rw [program_invocation_eq_iff hmake, Text.trim_eq_self_iff]
  · intro file current hmake
    rw [hdetected]
    exact isSome_locate?_of_isBlank (isBlank_of_emptyCompiler hmake)
  · intro htrim hslash hplaces file current request hmake
    -- Both look for the same name now, the one here and the other in the request's directory.
    have hprogram : request.invocation.program = name :=
      (program_invocation_eq_iff hmake).mpr htrim
    have hsearch : ∀ inside, world.enter request.workingDirectory = .ok inside →
        (detected ↔ 0 ∉ name ∧ ∃ path,
          Program.ComesTo inside request.invocation.program
            (request.invocation.program :: request.invocation.arguments) inside.searchPath path ∧
          Program.isExecutable inside path = true) := by
      intro inside henter
      rw [hdetected, hprogram, hplaces.exists_comesTo_iff henter, Program.isSome_locate?_iff hslash]
    refine ⟨hsearch, ?_⟩
    -- A program that is started was found by the search, which skips all but executable files.
    rintro ⟨⟨inside, words⟩, hprepare⟩
    obtain ⟨hnul, henter, hfind⟩ := World.prepare_eq_ok_iff.mp hprepare
    refine (hsearch inside henter).mpr ⟨?_, ?_⟩
    · rw [← hprogram]
      intro hmem
      rw [Compile.Invocation.hasNul, List.contains_iff_mem.mpr hmem] at hnul
      exact nomatch hnul
    · rw [hprogram] at hfind ⊢
      refine Program.exists_comesTo_of_search_eq_ok (fun place hplace => ?_)
        (Program.search_of_find_eq_ok hslash hfind)
      exact ((hplaces.of_enter henter).1 place hplace).2

/-- A compiler without blanks around its name, in the only directory for programs. It is detected,
and so the search of a request under these settings comes to it. -/
theorem detected_and_compiled_plain :
    let files := FileSystem.empty.putFile (["bin", "zc"].map Text.toBytes)
      (.file (Text.toBytes "#!/bin/sh\n") true)
    let world : World := ⟨files, [], [.ofText "/bin"]⟩
    let overrides : Settings.Patch := { compilerPath := some "zc" }
    let request : Request := ⟨.ofText "/main.z", .ofText "/", "zc", []⟩
    loadSettings world none = .ok Settings.default ∧
      Request.make (.ofText "/main.z") (overrides.apply Settings.default) world.currentPath =
        .ok request ∧
      world.enter request.workingDirectory = .ok world ∧
      (runDetect world none overrides).code = 0 ∧
      ∃ path, Program.ComesTo world request.invocation.program
          (request.invocation.program :: request.invocation.arguments) world.searchPath path ∧
        Program.isExecutable world path = true := by
  intro files world overrides request
  have hsettings : loadSettings world none = .ok Settings.default := by decide +kernel
  have hmake : Request.make (.ofText "/main.z") (overrides.apply Settings.default)
      world.currentPath = .ok request := by decide +kernel
  have hroot : files.resolve [] (.ofText "/") = .ok ([], .directory) := by decide +kernel
  have henter : world.enter (.ofText "/") = .ok world := by
    show files.resolve [] (.ofText "/") >>= _ = _
    rw [hroot]
    rfl
  have hfound : (Program.locate? world (Text.toBytes "zc")).isSome = true := by decide +kernel
  have hplaces : SearchesAlike world (Text.toBytes "zc") := by
    unfold SearchesAlike
    decide +kernel
  obtain ⟨hlookup, -, -, hsame⟩ := detected_and_compiled hsettings overrides
  have hdetected : (runDetect world none overrides).code = 0 := hlookup.mpr hfound
  have hsearch := (hsame (by decide +kernel) (by decide +kernel) hplaces _ _ request hmake).1
  exact ⟨hsettings, hmake, henter, hdetected, ((hsearch world henter).mp hdetected).2⟩

/-- A compiler with a blank before its name. A request names it without the blank, and so finds it,
but it is not detected. -/
theorem padded_compiler_not_detected :
    let files := (FileSystem.empty.putFile (["bin", "sh"].map Text.toBytes) .shell).putFile
      (["bin", "zc"].map Text.toBytes) (.file (Text.toBytes "#!/bin/sh\n") true)
    let world : World := ⟨files, [], [.ofText "/bin"]⟩
    let overrides : Settings.Patch := { compilerPath := some " zc" }
    ∃ request : Request,
      (loadSettings world none).toOption = some Settings.default ∧
      (Request.make (.ofText "/main.z") (overrides.apply Settings.default)
        world.currentPath).toOption = some request ∧
      request.compilerCommand = "zc" ∧
      (world.prepare request.invocation).toBool = true ∧
      runDetect world none overrides =
        ⟨1, "", "Compiler not found:  zc (cannot find binary path)\n"⟩ := by
  refine ⟨⟨.ofText "/main.z", .ofText "/", "zc", []⟩, ?_, ?_, rfl, ?_, ?_⟩
  · decide +kernel
  · decide +kernel
  · decide +kernel
  · decide +kernel

end CommandLine

end EditorBridge
