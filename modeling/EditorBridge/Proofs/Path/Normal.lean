import EditorBridge.Proofs.Path
import Mathlib.Data.List.DropRight

/-!
# Normal paths

A normal path is written out from the root: one name after the other, one slash between two names,
and perhaps a slash at the end. Making a path absolute yields a normal path, and it leaves a normal
path as it is, wherever the program runs. An absolute path other than the root has one component
more than its parent.

## Main definitions

* `IsNormal`: a path is written out from the root.

## Main results

* `IsNormal.absolute_eq`: a normal path is its own absolute path.
* `isNormal_of_absolute`: an absolute path that a path stands for is normal.
* `isNormal_iff`: the normal paths are those that stay as they are.
* `parent?_cases`: the parent of an absolute path.
-/

namespace EditorBridge.Path

open Text (Bytes)

/-- A path is written out from the root: by names, each a part without slashes that names
something, and perhaps with a slash at the end. -/
inductive IsNormal : Path → Prop where
  /-- The root, as an absolute path begins with it. -/
  | root (bytes : Bytes) : IsNormal ⟨rootOf bytes⟩
  /-- A name in a directory. -/
  | child {directory : Path} {part : Bytes} : IsNormal directory → isVoid part = false →
      slash ∉ part → IsNormal (directory.child ⟨part⟩)
  /-- A directory with a slash at the end. -/
  | ended {directory : Path} : IsNormal directory → IsNormal (directory.child ⟨[]⟩)

variable {directory path : Path} {part bytes : Bytes}

/-! ## Parts in a directory -/

/-- What stands between a directory and a part that is put behind it: a slash, unless there is one
already. -/
def gap (directory : Path) : Bytes :=
  if directory.bytes = [] ∨ directory.bytes.getLast? = some slash then [] else [slash]

/-- A part is put behind a directory with the gap in between. -/
theorem child_eq (hpart : slash ∉ part) :
    directory.child ⟨part⟩ = ⟨directory.bytes ++ directory.gap ++ part⟩ := by
  have hrelative := Bool.eq_false_iff.mp (isAbsolute_of_notMem hpart)
  simp only [child, gap, List.isEmpty_iff, if_neg hrelative]
  split <;> simp

/-- A second slash is not put at the end. -/
theorem child_void_of_ends (hends : directory.bytes.getLast? = some slash) :
    directory.child ⟨[]⟩ = directory := by
  rw [child_eq List.not_mem_nil, gap, if_pos (.inr hends), List.append_nil, List.append_nil]

/-- Behind the gap no other is needed. -/
theorem gap_child_void (hdirectory : directory.bytes ≠ []) :
    (directory.child ⟨[]⟩).gap = [] := by
  rw [child_eq List.not_mem_nil, List.append_nil, gap, gap]
  split <;> simp_all

/-- Behind a slash at the end, a part stands where it would stand without that slash. -/
theorem child_void_child (hdirectory : directory.bytes ≠ []) (hpart : slash ∉ part) :
    (directory.child ⟨[]⟩).child ⟨part⟩ = directory.child ⟨part⟩ := by
  rw [child_eq hpart, gap_child_void hdirectory, child_eq hpart, child_eq List.not_mem_nil,
    List.append_nil, List.append_nil]

/-- A slash stands at the end of a path exactly if nothing stands behind the gap. -/
theorem getLast?_child_eq_slash_iff (hdirectory : directory.bytes ≠ []) (hpart : slash ∉ part) :
    (directory.child ⟨part⟩).bytes.getLast? = some slash ↔ part = [] := by
  rw [child_eq hpart, List.getLast?_append]
  cases hend : part.getLast? with
  | none =>
    rw [gap, List.getLast?_eq_none_iff.mp hend]
    split <;> simp_all
  | some last =>
    have hlast : last ≠ slash := fun h => hpart (h ▸ List.mem_of_getLast? hend)
    have hne : part ≠ [] := fun h => by simp [h] at hend
    simp [hlast, hne]

/-- Where all that is taken from a list is the list, nothing is taken from what stands behind it. -/
theorem takeWhile_append_of_nil {α : Type} {p : α → Bool} {front rest : List α}
    (hrest : front.takeWhile p = front → rest.takeWhile p = []) :
    (front ++ rest).takeWhile p = front.takeWhile p := by
  rw [List.takeWhile_append]
  split
  · next hlength =>
    have hall := (List.takeWhile_prefix p).eq_of_length hlength
    rw [hrest hall, hall, List.append_nil]
  · rfl

/-- A path begins with the same root as its directory. -/
theorem rootOf_child (hpart : slash ∉ part) :
    rootOf (directory.child ⟨part⟩).bytes = rootOf directory.bytes := by
  -- The part holds no slash, and the gap is one only behind a byte that is none.
  have htaken : part.takeWhile (· = slash) = [] := by
    cases part with
    | nil => rfl
    | cons b rest =>
      exact List.takeWhile_cons_of_neg fun hb =>
        hpart (of_decide_eq_true hb ▸ List.mem_cons_self)
  have hgap : directory.bytes.takeWhile (· = slash) = directory.bytes →
      directory.gap.takeWhile (· = slash) = [] := by
    intro hall
    have hends : directory.bytes = [] ∨ directory.bytes.getLast? = some slash := by
      cases hlast : directory.bytes.getLast? with
      | none => exact .inl (List.getLast?_eq_none_iff.mp hlast)
      | some last =>
        have hmem := List.mem_of_getLast? hlast
        rw [← hall] at hmem
        exact .inr (congrArg some (of_decide_eq_true (List.mem_takeWhile_imp hmem :)))
    rw [gap, if_pos hends]
    rfl
  rw [rootOf, rootOf, child_eq hpart, takeWhile_append_of_nil fun _ => htaken,
    takeWhile_append_of_nil hgap]

/-! ## Paths written anew -/

/-- The root of a path with those of its parts behind it that name something. -/
def rewritten (path : Path) : Path :=
  (namingParts path.bytes).foldl (fun whole part => whole.child ⟨part⟩) ⟨rootOf path.bytes⟩

theorem rewritten_bytes_ne_nil (path : Path) : path.rewritten.bytes ≠ [] := by
  intro hbytes
  obtain ⟨habsolute, -⟩ := foldl_child (namingParts path.bytes)
    (fun part hpart => slash_notMem_of_mem_namingParts hpart) (isAbsolute_rootOf path.bytes)
  rw [← rewritten, isAbsolute, hbytes] at habsolute
  exact Bool.false_ne_true habsolute

/-- A name in a directory is written behind all of the directory. -/
theorem rewritten_child (hnames : isVoid part = false) (hpart : slash ∉ part) :
    (directory.child ⟨part⟩).rewritten = directory.rewritten.child ⟨part⟩ := by
  have hparts : namingParts part = [part] := by
    rw [namingParts, split_of_notMem hpart, List.filter_cons_of_pos (by rw [hnames]; rfl)]
    rfl
  rw [rewritten, rewritten, rootOf_child hpart, namingParts_child (isAbsolute_of_notMem hpart),
    hparts, List.foldl_append]
  rfl

/-- A slash at the end is not written. -/
theorem rewritten_child_void (directory : Path) :
    (directory.child ⟨[]⟩).rewritten = directory.rewritten := by
  rw [rewritten, rewritten, rootOf_child List.not_mem_nil, namingParts_child rfl]
  exact congrArg (List.foldl _ _) (List.append_nil _)

/-- The absolute path of an absolute path is written anew, with the slash at its end. -/
theorem absolute_of_isAbsolute {ε : Type} (habsolute : path.isAbsolute = true)
    (current : Except ε Path) :
    path.absolute current =
      .ok (if path.bytes.getLast? = some slash then path.rewritten.child ⟨[]⟩
        else path.rewritten) := by
  rw [absolute_eq, habsolute]
  rfl

/-! ## Normal paths -/

namespace IsNormal

theorem isAbsolute (hnormal : path.IsNormal) : path.isAbsolute = true := by
  induction hnormal with
  | root bytes => exact isAbsolute_rootOf bytes
  | child _ _ _ ih | ended _ ih => exact isAbsolute_child ih _

/-- A normal path is written anew as it is, but for a slash at the end. -/
theorem eq_rewritten_or (hnormal : path.IsNormal) :
    path = path.rewritten ∨ path = path.rewritten.child ⟨[]⟩ := by
  induction hnormal with
  | root bytes =>
    simp only [rootOf]
    split <;> exact .inl (by decide)
  | @child directory part _ hnames hpart ih =>
    rw [rewritten_child hnames hpart]
    rcases ih with heq | heq
    · exact .inl (congrArg (Path.child · ⟨part⟩) heq)
    · refine .inl ((congrArg (Path.child · ⟨part⟩) heq).trans ?_)
      exact child_void_child directory.rewritten_bytes_ne_nil hpart
  | @ended directory _ ih =>
    rw [rewritten_child_void]
    rcases ih with heq | heq
    · exact .inr (congrArg (Path.child · ⟨[]⟩) heq)
    · refine .inr ((congrArg (Path.child · ⟨[]⟩) heq).trans ?_)
      exact child_void_child directory.rewritten_bytes_ne_nil List.not_mem_nil

/-- A normal path is its own absolute path, whatever the current directory is. -/
theorem absolute_eq {ε : Type} (hnormal : path.IsNormal) (current : Except ε Path) :
    path.absolute current = .ok path := by
  rw [absolute_of_isAbsolute hnormal.isAbsolute]
  -- Whether a slash is put at the end can be seen from how the path is written.
  rcases hnormal.eq_rewritten_or with heq | heq
  · split
    · next hends => rw [← heq, child_void_of_ends hends]
    · rw [← heq]
  · have hends : path.bytes.getLast? = some slash := by
      rw [heq, getLast?_child_eq_slash_iff path.rewritten_bytes_ne_nil List.not_mem_nil]
    rw [if_pos hends, ← heq]

end IsNormal

/-- Names put behind a normal path make a normal path. -/
theorem isNormal_foldl_child (parts : List Bytes)
    (hparts : ∀ part ∈ parts, isVoid part = false ∧ slash ∉ part) (hnormal : directory.IsNormal) :
    (parts.foldl (fun whole part => whole.child ⟨part⟩) directory).IsNormal := by
  induction parts generalizing directory with
  | nil => exact hnormal
  | cons part parts ih =>
    obtain ⟨⟨hnames, hpart⟩, hparts⟩ := List.forall_mem_cons.mp hparts
    exact ih hparts (.child hnormal hnames hpart)

/-- The absolute path that a path stands for is normal, if the current directory is. -/
theorem isNormal_of_absolute {ε : Type} {whole : Path} {current : Except ε Path}
    (hcurrent : ∀ base, current = .ok base → base.IsNormal)
    (hwhole : path.absolute current = .ok whole) : whole.IsNormal := by
  obtain ⟨base, hbase, hends⟩ := eq_foldl_of_absolute hwhole
  have hstart : base.IsNormal := by
    split at hbase
    · exact hbase ▸ .root path.bytes
    · exact hcurrent base hbase
  have hjoined := isNormal_foldl_child (namingParts path.bytes) (fun part hpart =>
    ⟨by simpa using (List.mem_filter.mp hpart).2, slash_notMem_of_mem_namingParts hpart⟩) hstart
  rw [hends]
  split
  · exact .ended hjoined
  · exact hjoined

/-- The normal paths are those that are their own absolute paths where there is no current
directory. -/
theorem isNormal_iff : path.IsNormal ↔ path.absolute (.error ()) = .ok path :=
  ⟨fun hnormal => hnormal.absolute_eq _, isNormal_of_absolute fun _ hbase => nomatch hbase⟩

/-! ## Parents -/

/-- The parts that are left were there before. -/
theorem mem_of_mem_dropVoidEnd {parts : List Bytes} (hpart : part ∈ dropVoidEnd parts) :
    part ∈ parts :=
  (List.rdropWhile_prefix isVoid parts).subset hpart

/-- The last part that is left names something. -/
theorem isVoid_of_dropVoidEnd_eq {parts front : List Bytes}
    (hparts : dropVoidEnd parts = front ++ [part]) : isVoid part = false := by
  have hfirst : (parts.reverse.dropWhile isVoid).head? = some part := by
    rw [← List.getLast?_reverse, ← dropVoidEnd, hparts, List.getLast?_concat]
  have hnot := List.head?_dropWhile_not isVoid parts.reverse
  rwa [hfirst] at hnot

/-- The parts at the end that name nothing are no steps. -/
theorem steps_dropVoidEnd (parts : List Bytes) : steps (dropVoidEnd parts) = steps parts := by
  induction parts using List.reverseRecOn with
  | nil => rfl
  | append_singleton parts last ih =>
    cases hlast : isVoid last with
    | false =>
      have hkeep : dropVoidEnd (parts ++ [last]) = parts ++ [last] :=
        List.rdropWhile_concat_neg isVoid parts last (by simp [hlast])
      rw [hkeep]
    | true =>
      have hdrop : dropVoidEnd (parts ++ [last]) = dropVoidEnd parts :=
        List.rdropWhile_concat_pos isVoid parts last hlast
      rw [hdrop, ih, steps_append]
      simp [steps, hlast]

/-- Parts with slashes put between them are the same steps as before. -/
theorem steps_split_join (parts : List Bytes) (hparts : ∀ part ∈ parts, slash ∉ part) :
    steps (split (join parts)) = steps parts := by
  induction parts with
  | nil => rfl
  | cons part parts ih =>
    obtain ⟨hpart, hparts⟩ := List.forall_mem_cons.mp hparts
    cases parts with
    | nil => rw [join, split_of_notMem hpart]
    | cons next parts =>
      rw [join, split_append_slash, split_of_notMem hpart, steps_append, ih hparts, ← steps_append]
      · rfl
      · exact fun h => nomatch h

/-- The root has no parent, and any other absolute path has one component more than its parent. -/
theorem parent?_cases (habsolute : path.isAbsolute = true) :
    path.components = [.root] ∧ path.parent? = none ∨
      ∃ parent last, path.parent? = some parent ∧
        path.components = parent.components ++ [last] := by
  obtain ⟨rest, hrest⟩ := exists_cons_of_isAbsolute habsolute
  -- The components are the root and the steps behind the first slash.
  have hcomponents : path.components = .root :: steps (dropVoidEnd (split rest)) := by
    rw [components_of_isAbsolute habsolute, hrest, steps_dropVoidEnd]
    rfl
  rw [hcomponents, parent?, hrest, List.drop_one, List.tail_cons]
  -- The parent is joined from all parts but the last, which names something.
  cases hparts : dropVoidEnd (split rest) using List.reverseRecOn with
  | nil => exact .inl ⟨rfl, rfl⟩
  | append_singleton front last _ =>
    have hlast : steps [last] = [.ofPart last] := by
      simp [steps, isVoid_of_dropVoidEnd_eq hparts]
    have hslashes : ∀ part ∈ dropVoidEnd front, slash ∉ part := by
      intro part hpart
      have hmem : part ∈ dropVoidEnd (split rest) :=
        hparts ▸ List.mem_append_left [last] (mem_of_mem_dropVoidEnd hpart)
      exact slash_notMem_of_mem_split (mem_of_mem_dropVoidEnd hmem)
    refine .inr ⟨⟨slash :: join (dropVoidEnd front)⟩, .ofPart last, by simp, ?_⟩
    rw [components_of_isAbsolute rfl, List.cons_append, ← hlast, steps_append]
    have hfront := steps_split_join (dropVoidEnd front) hslashes
    rw [steps_dropVoidEnd] at hfront
    rw [← hfront]
    rfl

end EditorBridge.Path
