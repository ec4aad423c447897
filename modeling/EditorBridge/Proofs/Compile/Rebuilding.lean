import EditorBridge.Proofs.Compile.Request
import EditorBridge.Proofs.Path.Normal
import EditorBridge.Proofs.Text.Blank

/-!
# Requests made again

A request holds all that is needed to make it again: from its file, its compiler and its arguments
the same request is made, and then the current directory does not matter any more. The file of a
request stands in its working directory.

## Main results

* `make_filePath`: the request that is made for the file of a request.
* `components_filePath`: where the file of a request stands.
* `made_again_in_directory`: both, with the place of a relative path.
-/

namespace EditorBridge.Compile.Request

variable {path : Path} {settings : Settings} {current : Except SystemError Path}
  {request : Request}

/-- From the file, the compiler and the arguments of a request the same request is made again. -/
theorem make_filePath (hcurrent : ∀ base, current = .ok base → base.IsNormal)
    (hmake : make path settings current = .ok request) {again : Settings}
    (hcompiler : again.compilerPath = request.compilerCommand)
    (harguments : again.compilerArgs = request.compilerArgs)
    (elsewhere : Except SystemError Path) :
    make request.filePath again elsewhere = .ok request := by
  obtain ⟨-, hcommand, filePath, hfile, rfl⟩ := make_eq_ok_iff.mp hmake
  have hnormal := Path.isNormal_of_absolute hcurrent hfile
  have hcompiler' : Text.trim again.compilerPath = Text.trim settings.compilerPath := by
    rw [hcompiler, Text.trim_trim]
  refine make_eq_ok_iff.mpr ⟨Path.bytes_ne_nil hnormal.isAbsolute, ?_, filePath,
    hnormal.absolute_eq elsewhere, ?_⟩
  · rwa [hcompiler']
  · rw [hcompiler', harguments]

/-- The file of a request has one component more than its working directory, unless it is the
root. -/
theorem components_filePath (hfile : request.filePath.isAbsolute = true)
    (hdirectory : request.workingDirectory = request.filePath.parent?.getD request.filePath) :
    if request.filePath.components = [.root] then request.workingDirectory.components = [.root]
    else ∃ last, request.filePath.components = request.workingDirectory.components ++ [last] := by
  rcases Path.parent?_cases hfile with ⟨hroot, hparent⟩ | ⟨parent, last, hparent, hcomponents⟩
  · rw [if_pos hroot, hdirectory, hparent]
    exact hroot
  · -- The parent has the root as a component of its own.
    have hmore : request.filePath.components ≠ [.root] := by
      rw [hcomponents, Path.components_of_isAbsolute (Path.isAbsolute_of_parent? hparent)]
      simp
    rw [if_neg hmore, hdirectory, hparent]
    exact ⟨last, hcomponents⟩

/-- From the file of a request, its compiler and its arguments the same request is made again,
whatever the current directory is and also where there is none. The file stands in the working
directory: it has one component more, and only for the root both are the same. An absolute path
keeps its components, and a relative one adds its own to those of the current directory, without
the `.` that it may begin with. -/
theorem made_again_in_directory (hcurrent : ∀ base, current = .ok base → base.IsNormal)
    (hmake : make path settings current = .ok request) :
    (∀ (again : Settings) (elsewhere : Except SystemError Path),
      again.compilerPath = request.compilerCommand → again.compilerArgs = request.compilerArgs →
      make request.filePath again elsewhere = .ok request) ∧
    (if request.filePath.components = [.root] then request.workingDirectory.components = [.root]
      else ∃ last,
        request.filePath.components = request.workingDirectory.components ++ [last]) ∧
    if path.isAbsolute then request.filePath.components = path.components
    else ∃ base, current = .ok base ∧
      request.filePath.components = base.components ++ path.components.filter (· ≠ .current) := by
  have habsolute : ∀ base, current = .ok base → base.isAbsolute = true :=
    fun base hbase => (hcurrent base hbase).isAbsolute
  obtain ⟨-, -, filePath, hfile, hrequest⟩ := make_eq_ok_iff.mp hmake
  refine ⟨fun again elsewhere hcompiler harguments =>
    make_filePath hcurrent hmake hcompiler harguments elsewhere, ?_, ?_⟩
  · refine components_filePath ?_ (by rw [hrequest])
    rw [hrequest]
    exact Path.isAbsolute_of_absolute habsolute hfile
  · have hcomponents := Path.components_of_absolute habsolute hfile
    rw [hrequest]
    split at hcomponents
    · next hpath => rwa [if_pos hpath]
    · next hpath =>
      rwa [if_neg hpath, Path.filter_components (Bool.eq_false_iff.mpr hpath)]

/-- A relative path with `.`, `..` and more slashes than it needs, whose request is made again where
there is no current directory. -/
theorem made_again_in_directory_relative :
    let path : Path := .ofText "./specs//../main.z/."
    let current : Except SystemError Path := .ok (.ofText "/my work")
    let settings : Settings := ⟨" zc\t", ["-O"], true⟩
    let request : Request :=
      ⟨.ofText "/my work/specs/../main.z", .ofText "/my work/specs/..", "zc", ["-O"]⟩
    (∀ base, current = .ok base → base.IsNormal) ∧ make path settings current = .ok request ∧
      make request.filePath ⟨"zc", ["-O"], false⟩ (.error .notFound) = .ok request ∧
      request.filePath.components =
        [.root, .name (Text.toBytes "my work"), .name (Text.toBytes "specs"), .up,
          .name (Text.toBytes "main.z")] := by
  intro path current settings request
  have hcurrent : ∀ base, current = .ok base → base.IsNormal := by
    rintro base hbase
    have hname : Path.ofText "/my work" =
        Path.child ⟨Path.rootOf []⟩ ⟨Text.toBytes "my work"⟩ := by decide +kernel
    rw [← Except.ok.inj hbase, hname]
    exact .child (.root []) (by decide +kernel) (by decide +kernel)
  have hmake : make path settings current = .ok request := by decide +kernel
  obtain ⟨hagain, -, hplace⟩ := made_again_in_directory hcurrent hmake
  refine ⟨hcurrent, hmake, hagain _ _ rfl rfl, ?_⟩
  obtain ⟨base, hbase, hcomponents⟩ := hplace
  rw [hcomponents, ← Except.ok.inj hbase]
  decide +kernel

end EditorBridge.Compile.Request
