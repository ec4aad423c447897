import EditorBridge.Launch
import EditorBridge.Proofs.Program

/-!
# Before a program runs

A program is started in three steps: its words are checked, its directory is entered, and the program
is looked up from there. Each of them can fail, and then the program does not run. Entering a
directory changes nothing but the current directory.

## Main results

* `exists_eq_of_enter`: what entering a directory changes.
* `prepare_eq_ok_iff`: when a program can be started.
* `prepare_eq_notFound_iff`: what can be missing when it cannot.
-/

namespace EditorBridge.World

open Compile

variable {world inside : World} {directory : Path} {words : List Text.Bytes}
  {invocation : Invocation}

/-! ## The directory -/

/-- Entering a directory changes nothing else. -/
theorem exists_eq_of_enter (henter : world.enter directory = .ok inside) :
    ∃ location, inside = { world with current := location } := by
  obtain ⟨⟨location, _ | _ | _⟩, -, hinside⟩ := bind_eq_ok_iff.mp henter
  · exact ⟨location, (Except.ok.inj hinside).symm⟩
  · exact nomatch hinside
  · exact nomatch hinside

/-- A directory cannot be entered because something does not exist. A file in its place is another
fault. -/
theorem enter_eq_notFound_iff :
    world.enter directory = .error .notFound ↔
      world.files.resolve world.current directory = .error .notFound := by
  rw [enter, bind_eq_error_iff]
  refine or_iff_left ?_
  rintro ⟨⟨location, _ | _ | _⟩, -, hfault⟩
  · exact nomatch hfault
  · exact nomatch hfault
  · exact nomatch hfault

/-! ## The program -/

/-- What has to go well before a program is started. -/
theorem prepare_eq_ok_iff :
    world.prepare invocation = .ok (inside, words) ↔
      invocation.hasNul = false ∧ world.enter invocation.directory = .ok inside ∧
        Program.find inside invocation.program invocation.arguments = .ok words := by
  unfold prepare
  cases invocation.hasNul with
  | true => exact iff_of_false (fun h => nomatch h) fun h => nomatch h.1
  | false =>
    simp only [Bool.false_eq_true, if_false, true_and, bind_eq_ok_iff]
    constructor
    · rintro ⟨entered, henter, found, hfind, hstarted⟩
      obtain ⟨rfl, rfl⟩ := Prod.mk.inj (Except.ok.inj hstarted)
      exact ⟨henter, hfind⟩
    · rintro ⟨henter, hfind⟩
      exact ⟨inside, henter, words, hfind, rfl⟩

/-- Starting a program fails because something does not exist if its directory does not, or if the
lookup in that directory says so. -/
theorem prepare_eq_notFound_iff :
    world.prepare invocation = .error .notFound ↔
      invocation.hasNul = false ∧
        (world.files.resolve world.current invocation.directory = .error .notFound ∨
          ∃ inside, world.enter invocation.directory = .ok inside ∧
            (Program.Unknown inside invocation.program ∨
              Program.OnlyUninterpreted inside invocation.program)) := by
  unfold prepare
  cases hnul : invocation.hasNul with
  | true => exact iff_of_false (fun h => nomatch h) fun h => nomatch h.1
  | false =>
    simp only [Bool.false_eq_true, if_false, true_and]
    rw [bind_eq_error_iff, enter_eq_notFound_iff]
    refine or_congr_right (exists_congr fun inside => and_congr_right fun _ => ?_)
    rw [bind_eq_error_iff, Program.find_eq_notFound_iff]
    -- Nothing can fail once the program has been found.
    refine or_iff_left ?_
    rintro ⟨words, -, hfault⟩
    exact nomatch hfault

/-- A program that cannot be started leaves the fault that was met on the way. -/
theorem launch_eq_error_iff {cause : SystemError} :
    (world.launch invocation).1 = .error cause ↔ world.prepare invocation = .error cause := by
  unfold launch
  cases world.prepare invocation with
  | error fault => simp
  | ok started => simp

end EditorBridge.World
