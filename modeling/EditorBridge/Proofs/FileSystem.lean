import EditorBridge.FileSystem
import EditorBridge.Proofs.Success

/-!
# Following paths

A path is followed one part after the other, and every place that is left has to be a directory. So
there are only three ways in which a path leads nowhere, a slash at its end leads to a directory, and
an absolute path does not depend on the current directory.

## Main results

* `follow_cons_cases`: what one part of a path does.
* `resolve_eq_error_cases`: the ways in which a path leads nowhere.
* `node?_of_follow_append_void`: what a slash at the end means.
-/

namespace EditorBridge.FileSystem

open Text (Bytes)

/-- An absolute path leads to the same place from everywhere. -/
theorem resolve_of_isAbsolute {path : Path} (habsolute : path.isAbsolute = true)
    (files : FileSystem) (here there : Location) :
    files.resolve here path = files.resolve there path := by
  simp only [resolve, locate, habsolute, if_true]

/-- What one part of a path does. From a directory it leads to some place, which is the same one if
the part names nothing, and elsewhere it leads nowhere. -/
theorem follow_cons_cases (files : FileSystem) (place : Location) (part : Bytes)
    (rest : List Bytes) :
    (∃ next, files.node? place = some .directory ∧ (Path.isVoid part = true → next = place) ∧
      files.follow place (part :: rest) = files.follow next rest) ∨
    ∃ cause, (cause = .notFound ∨ cause = .notADirectory ∨ cause = .nameTooLong) ∧
      files.follow place (part :: rest) = .error cause := by
  rw [follow]
  cases hnode : files.node? place with
  | none => exact .inr ⟨.notFound, .inl rfl, rfl⟩
  | some node =>
    cases node with
    | directory =>
      dsimp only
      split
      · exact .inl ⟨place, rfl, fun _ => rfl, rfl⟩
      · next hnamed =>
        split
        · exact .inl ⟨place.dropLast, rfl, fun hvoid => absurd hvoid hnamed, rfl⟩
        split
        · exact .inr ⟨.nameTooLong, .inr (.inr rfl), rfl⟩
        · exact .inl ⟨place ++ [part], rfl, fun hvoid => absurd hvoid hnamed, rfl⟩
    | _ => exact .inr ⟨.notADirectory, .inr (.inl rfl), rfl⟩

/-- Following a path fails at a part that does not exist, or is no directory, or is too long. -/
theorem follow_eq_error_cases {files : FileSystem} {place : Location}
    {parts : List Bytes} {cause : SystemError}
    (hfault : files.follow place parts = .error cause) :
    cause = .notFound ∨ cause = .notADirectory ∨ cause = .nameTooLong := by
  induction parts generalizing place with
  | nil => exact nomatch hfault
  | cons part rest ih =>
    obtain ⟨next, -, -, hnext⟩ | ⟨fault, hkind, hstop⟩ := files.follow_cons_cases place part rest
    · rw [hnext] at hfault
      exact ih hfault
    · rw [hstop] at hfault
      rwa [← Except.error.inj hfault]

theorem resolve_eq_error_cases {files : FileSystem} {current : Location} {path : Path}
    {cause : SystemError} (hfault : files.resolve current path = .error cause) :
    cause = .notFound ∨ cause = .notADirectory ∨ cause = .nameTooLong := by
  rw [resolve, bind_eq_error_iff] at hfault
  obtain hlocate | ⟨location, -, hnode⟩ := hfault
  · unfold locate at hlocate
    split at hlocate
    · exact .inl (Except.error.inj hlocate).symm
    split at hlocate
    · exact .inr (.inr (Except.error.inj hlocate).symm)
    · exact follow_eq_error_cases hlocate
  · split at hnode
    · exact .inl (Except.error.inj hnode).symm
    · exact nomatch hnode

/-- A slash at the end of a path leads to a directory. -/
theorem node?_of_follow_append_void {files : FileSystem} {place found : Location}
    {parts : List Bytes} (hfollow : files.follow place (parts ++ [[]]) = .ok found) :
    files.node? found = some .directory := by
  induction parts generalizing place with
  | nil =>
    obtain ⟨next, hnode, hsame, hnext⟩ | ⟨cause, -, hstop⟩ := files.follow_cons_cases place [] []
    · rw [List.nil_append, hnext, hsame rfl, follow] at hfollow
      rw [← Except.ok.inj hfollow, hnode]
    · rw [List.nil_append, hstop] at hfollow
      exact nomatch hfollow
  | cons part rest ih =>
    obtain ⟨next, -, -, hnext⟩ | ⟨cause, -, hstop⟩ :=
      files.follow_cons_cases place part (rest ++ [[]])
    · rw [List.cons_append, hnext] at hfollow
      exact ih hfollow
    · rw [List.cons_append, hstop] at hfollow
      exact nomatch hfollow

end EditorBridge.FileSystem
