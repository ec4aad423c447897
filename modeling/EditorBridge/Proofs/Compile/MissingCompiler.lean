import EditorBridge.Compile.Report
import EditorBridge.Proofs.Preparation

/-!
# Compilers that are not found

A compile fails with the words that the compiler was not found whenever the system reports, before
the compiler runs, that something does not exist. That is so for a command that names no program.
It is also so for a source file whose directory does not exist, and for a compiler that is a script
whose interpreter is missing, though the compiler itself has been found then or was never looked
for.

## Main results

* `blames_compiler_iff`: when a compile fails with the words that its compiler was not found.
* `present_compiler_blamed`: a directory is missing, and the compiler is blamed.
-/

namespace EditorBridge.Compile

/-- Only one fault of the system is reported in these words, and no compiler that ran is. -/
theorem blames_iff {request : Request} {outcome : Outcome} :
    (∃ rest, (Result.ofOutcome request outcome).errorMessage =
        some ("Compiler not found: " ++ rest)) ↔ outcome = .error .notFound := by
  constructor
  · rintro ⟨rest, hmessage⟩
    -- The other messages begin with other letters.
    have hletters : ∀ message, some message = some ("Compiler not found: " ++ rest) →
        message.toList.take 5 = "Compi".toList := by
      intro message hsome
      rw [Option.some.inj hsome, String.toList_append]
      rfl
    unfold Result.ofOutcome at hmessage
    split at hmessage
    · rfl
    · have htaken := hletters _ hmessage
      simp only [String.toList_append] at htaken
      exact absurd (show "Faile".toList = "Compi".toList from htaken) (by decide)
    · next finished =>
      change (if finished.status.succeeded then none else some _) = _ at hmessage
      split at hmessage
      · exact nomatch hmessage
      · have htaken := hletters _ hmessage
        simp only [String.toList_append] at htaken
        exact absurd (show "Comma".toList = "Compi".toList from htaken) (by decide)
  · rintro rfl
    exact ⟨request.compilerCommand ++ " (" ++ SystemError.notFound.message ++ ")", by
      simp only [Result.ofOutcome, Result.launchFailure, String.append_assoc]⟩

/-- A compile fails with the words that its compiler was not found in three cases: the directory of
the source file does not exist; or the command names nothing, seen from that directory; or all that
it names are scripts without interpreters. -/
theorem blames_compiler_iff (request : Request) (world : World) :
    (∃ rest, (Result.ofOutcome request (world.launch request.invocation).1).errorMessage =
        some ("Compiler not found: " ++ rest)) ↔
      request.invocation.hasNul = false ∧
        (world.files.resolve world.current request.workingDirectory = .error .notFound ∨
          ∃ inside, world.enter request.workingDirectory = .ok inside ∧
            (Program.Unknown inside (Text.toBytes request.compilerCommand) ∨
              Program.OnlyUninterpreted inside (Text.toBytes request.compilerCommand))) := by
  rw [blames_iff, World.launch_eq_error_iff, World.prepare_eq_notFound_iff]
  rfl

/-- The source file is in a directory that does not exist, and the compile says that the compiler was
not found. The lookup of the compiler finds it. -/
theorem present_compiler_blamed :
    let world : World :=
      ⟨FileSystem.empty.putFile (["bin", "sh"].map Text.toBytes) .shell, [], [.ofText "/bin"]⟩
    let settings : Settings := { Settings.default with compilerPath := "sh" }
    ∃ request : Request,
      (Request.make (.ofText "/missing/main.z") settings world.currentPath).toOption =
        some request ∧
      (Result.ofOutcome request (world.launch request.invocation).1).errorMessage =
        some "Compiler not found: sh (No such file or directory (os error 2))" ∧
      (Program.find world request.invocation.program request.invocation.arguments).toOption =
        some (request.invocation.program :: request.invocation.arguments) := by
  refine ⟨⟨.ofText "/missing/main.z", .ofText "/missing", "sh", []⟩, ?_, ?_, ?_⟩
  · decide +kernel
  · decide +kernel
  · decide +kernel

end EditorBridge.Compile
