import EditorBridge.Compile.Request
import EditorBridge.Proofs.Success
import EditorBridge.Url.Basic

/-!
# When a request is made

A request needs a path that is not empty, a compiler whose name is not blank, and a current
directory if the path is relative. For an absolute path, and so for the file of every URL, only the
compiler can be missing.

## Main results

* `Request.make_eq_ok_iff`: when a request is made, and which.
* `Url.isAbsolute_filePath`: the files of URLs have absolute paths.
* `Path.exists_absolute_eq_ok`: an absolute path does not need the current directory.
-/

namespace EditorBridge

/-- An absolute path does not need the current directory. -/
theorem Path.exists_absolute_eq_ok {ε : Type} {path : Path} (habsolute : path.isAbsolute = true)
    (current : Except ε Path) : ∃ whole, path.absolute current = .ok whole := by
  rw [absolute, if_pos habsolute]
  exact ⟨_, rfl⟩

theorem Path.bytes_ne_nil {path : Path} (habsolute : path.isAbsolute = true) :
    path.bytes ≠ [] := by
  intro hbytes
  simp [isAbsolute, hbytes] at habsolute

/-- The file of a URL has an absolute path. -/
theorem Url.isAbsolute_filePath {url : Url} {path : Path} (hpath : url.filePath? = some path) :
    path.isAbsolute = true := by
  rcases hroute : url.route with (_ | ⟨first, rest⟩) | text <;>
    simp only [filePath?, hroute, reduceCtorEq] at hpath
  -- Of a route with segments the first already stands behind a slash.
  obtain ⟨-, hsome⟩ := Option.ite_none_right_eq_some.mp hpath
  obtain rfl := Option.some.inj hsome
  rw [Path.isAbsolute, List.flatMap_cons]
  split <;> rfl

namespace Compile.Request

/-- The checks of a request, one after the other. -/
theorem make_eq (path : Path) (settings : Settings) (current : Except SystemError Path) :
    make path settings current =
      if path.bytes = [] then .error .emptyPath
      else if Text.trim settings.compilerPath = "" then .error .emptyCompiler
      else match path.absolute current with
        | .error cause => .error (.unresolvedPath path cause)
        | .ok filePath => .ok ⟨filePath, filePath.parent?.getD filePath,
            Text.trim settings.compilerPath, settings.compilerArgs⟩ := by
  unfold make
  simp only [List.isEmpty_iff, String.isEmpty_iff]
  split
  · rfl
  · split
    · rfl
    · cases path.absolute current <;> rfl

/-- A request is made exactly if there is a path, a compiler and, where it is needed, a current
directory. -/
theorem make_eq_ok_iff {path : Path} {settings : Settings} {current : Except SystemError Path}
    {request : Request} :
    make path settings current = .ok request ↔
      path.bytes ≠ [] ∧ Text.trim settings.compilerPath ≠ "" ∧
      ∃ filePath, path.absolute current = .ok filePath ∧
        request = ⟨filePath, filePath.parent?.getD filePath, Text.trim settings.compilerPath,
          settings.compilerArgs⟩ := by
  rw [make_eq]
  by_cases hpath : path.bytes = []
  · simp [hpath]
  by_cases hcompiler : Text.trim settings.compilerPath = ""
  · simp [hpath, hcompiler]
  cases path.absolute current <;> simp [hpath, hcompiler, eq_comm]

/-- A request names the compiler without the blanks around its name. -/
theorem compilerCommand_of_make {path : Path} {settings : Settings}
    {current : Except SystemError Path} {request : Request}
    (hmake : make path settings current = .ok request) :
    request.compilerCommand = Text.trim settings.compilerPath := by
  obtain ⟨-, -, filePath, -, rfl⟩ := make_eq_ok_iff.mp hmake
  rfl

/-- The program of a request is its compiler. -/
theorem program_invocation (request : Request) :
    request.invocation.program = Text.toBytes request.compilerCommand := by
  rw [invocation]

end Compile.Request

end EditorBridge
