import EditorBridge.Proofs.Path
import EditorBridge.SystemError
import Mathlib.Data.List.Induction
import Mathlib.Data.List.TakeWhile

/-!
# Z files by their last part

Whether a path is the path of a Z file can be read off its bytes from the end. The slashes and the
`/.` parts there name nothing and are passed over, and what then stands behind the last slash has to
be a name before `.z` or `.Z`. So only the last part counts, and what stands before it can be
changed, unless there is nothing that the last part names.

## Main definitions

* `lastPart`: what stands behind the last slash but for slashes and `/.` parts at the end.

## Main results

* `induction_on_parts`: what holds of a part, and with one more part behind a slash, always holds.
* `getLast?_steps`: the last step of a path is the one that its last part stands for.
* `extensionOf?_eq_some_iff`: a name with an extension is a stem, a dot and the extension.
* `hasZExtension_iff`: the Z files by the last parts of their paths.
* `hasZExtension_by_lastPart`: what changes nothing about it.
-/

namespace EditorBridge.Path

open Text (Bytes)

/-- What is left of a path that is read from its end, behind the slashes and the `/.` parts that it
ends with. -/
def passEnd : Bytes → Bytes
  | [] => []
  | b :: rest =>
    if b = slash ∨ b = dot ∧ rest.head? = some slash then passEnd rest else b :: rest

/-- What stands behind the last slash of a path, after the slashes and the `/.` parts at its end are
dropped. -/
def lastPart (bytes : Bytes) : Bytes :=
  ((passEnd bytes.reverse).takeWhile (· ≠ slash)).reverse

/-! ## One part after the other -/

/-- What holds of every part, and of a path with one more part behind a slash if it holds of the
path, holds of all paths. -/
@[elab_as_elim]
theorem induction_on_parts {motive : Bytes → Prop} (bytes : Bytes)
    (alone : ∀ part, slash ∉ part → motive part)
    (behind : ∀ front part, slash ∉ part → motive front → motive (front ++ slash :: part)) :
    motive bytes := by
  -- The bytes behind the last slash are collected until that slash is met.
  suffices h : ∀ part, slash ∉ part → motive (bytes ++ part) by
    simpa using h [] List.not_mem_nil
  induction bytes using List.reverseRecOn with
  | nil => exact alone
  | append_singleton front b ih =>
    intro part hpart
    rw [List.append_assoc, List.singleton_append]
    by_cases hb : b = slash
    · subst hb
      have hfront : motive front := by simpa using ih [] List.not_mem_nil
      exact behind front part hpart hfront
    · refine ih (b :: part) ?_
      rw [List.mem_cons, not_or]
      exact ⟨Ne.symm hb, hpart⟩

theorem ne_of_mem_reverse {b : UInt8} {bytes : Bytes} (hb : b ∉ bytes) :
    ∀ c ∈ bytes.reverse, decide (c ≠ b) = true := fun _ hc =>
  decide_eq_true fun h => hb (h ▸ List.mem_reverse.mp hc)

/-- What is taken from the end of a list up to the last place of a member is what stands behind that
place. -/
theorem takeWhile_reverse_append {b : UInt8} {behind : Bytes} (hb : b ∉ behind) (before : Bytes) :
    (behind.reverse ++ b :: before).takeWhile (· ≠ b) = behind.reverse := by
  rw [List.takeWhile_append_of_pos (ne_of_mem_reverse hb), List.takeWhile_cons_of_neg (by simp),
    List.append_nil]

theorem isVoid_iff {part : Bytes} : isVoid part = true ↔ part = [] ∨ part = here := by
  simp [isVoid]

theorem isVoid_eq_false_iff {part : Bytes} : isVoid part = false ↔ part ≠ [] ∧ part ≠ here := by
  rw [Bool.eq_false_iff, ne_eq, isVoid_iff, not_or]

/-- A part that names nothing is passed over with the slash before it. -/
theorem lastPart_behind_void {part : Bytes} (hvoid : isVoid part = true) (front : Bytes) :
    lastPart (front ++ slash :: part) = lastPart front := by
  have hpass : passEnd (front ++ slash :: part).reverse = passEnd front.reverse := by
    rcases isVoid_iff.mp hvoid with rfl | rfl <;> simp [passEnd, here]
  rw [lastPart, hpass, lastPart]

theorem passEnd_of_names {part : Bytes} (hnames : isVoid part = false) (hpart : slash ∉ part)
    (before : Bytes) : passEnd (part.reverse ++ before) = part.reverse ++ before := by
  cases hreverse : part.reverse with
  | nil =>
    rw [List.reverse_eq_nil_iff.mp hreverse] at hnames
    exact nomatch hnames
  | cons last rest =>
    have hslash : slash ∉ last :: rest := by rwa [← hreverse, List.mem_reverse]
    rw [List.mem_cons, not_or] at hslash
    -- The last byte of the part is kept, and then passing over stops.
    rw [List.cons_append, passEnd, if_neg]
    rintro (hlast | ⟨hdot, hhead⟩)
    · exact hslash.1 hlast.symm
    · -- A dot behind a slash would be all of the part.
      cases rest with
      | nil =>
        have hhere : part = here := by simpa [hdot, here] using congrArg List.reverse hreverse
        rw [isVoid_iff.mpr (.inr hhere)] at hnames
        exact nomatch hnames
      | cons next rest =>
        exact hslash.2 (Option.some.inj hhead ▸ List.mem_cons_self)

/-- A part that names something is the last part, whatever stands before it. -/
theorem lastPart_of_names {part : Bytes} (hnames : isVoid part = false) (hpart : slash ∉ part) :
    lastPart part = part ∧ ∀ front, lastPart (front ++ slash :: part) = part := by
  constructor
  · have hpass := passEnd_of_names hnames hpart []
    rw [List.append_nil] at hpass
    rw [lastPart, hpass, List.takeWhile_eq_self_iff.mpr (ne_of_mem_reverse hpart),
      List.reverse_reverse]
  · intro front
    have hwhole : (front ++ slash :: part).reverse = part.reverse ++ slash :: front.reverse := by
      simp
    rw [lastPart, hwhole, passEnd_of_names hnames hpart, takeWhile_reverse_append hpart,
      List.reverse_reverse]

/-- The last step of a path is the one that its last part stands for. Where the last part names
nothing, there is no step. -/
theorem getLast?_steps (bytes : Bytes) :
    (steps (split bytes)).getLast? =
      if isVoid (lastPart bytes) then none else some (.ofPart (lastPart bytes)) := by
  induction bytes using induction_on_parts with
  | alone part hpart =>
    rw [split_of_notMem hpart]
    cases hvoid : isVoid part with
    | true =>
      have hlast : isVoid (lastPart part) = true := by
        rcases isVoid_iff.mp hvoid with rfl | rfl <;> decide
      simp [steps, hvoid, hlast]
    | false => simp [steps, (lastPart_of_names hvoid hpart).1, hvoid]
  | behind front part hpart ih =>
    rw [split_append_slash, steps_append, split_of_notMem hpart]
    cases hvoid : isVoid part with
    | true =>
      rw [lastPart_behind_void hvoid, ← ih]
      simp [steps, hvoid]
    | false => simp [steps, (lastPart_of_names hvoid hpart).2, hvoid]

theorem Component.ofPart_injective : Function.Injective Component.ofPart := by
  intro first second hsame
  simp only [Component.ofPart] at hsame
  split at hsame <;> split at hsame <;> simp_all

theorem lastPart_eq_of_getLast?_steps {bytes part : Bytes}
    (hlast : (steps (split bytes)).getLast? = some (.ofPart part)) : lastPart bytes = part := by
  rw [getLast?_steps] at hlast
  split at hlast
  · exact nomatch hlast
  · exact Component.ofPart_injective (Option.some.inj hlast)

/-! ## Names and their extensions -/

/-- The name at the end of a path is its last part, if that names something and leads not up. -/
theorem fileName?_eq_some_iff {path : Path} {name : Bytes} :
    path.fileName? = some name ↔
      lastPart path.bytes = name ∧ isVoid name = false ∧ name ≠ above := by
  have hlast : path.fileName? = some name ↔ path.components.getLast? = some (.name name) := by
    unfold fileName?
    split
    · next found hfound => simp [hfound]
    · next hother => exact iff_of_false (fun h => nomatch h) (hother name)
  -- A name is one of the steps, because the place where a path starts is none.
  obtain ⟨start, hstart, hnames⟩ := exists_components_eq path
  have hstep : path.components.getLast? = some (.name name) ↔
      (steps (split path.bytes)).getLast? = some (.name name) := by
    rw [hstart, List.getLast?_append, Option.or_eq_some_iff]
    refine or_iff_left fun h => ?_
    exact hnames name (List.mem_of_getLast? h.2)
  rw [hlast, hstep, getLast?_steps]
  constructor
  · intro h
    split at h
    · exact nomatch h
    · next hvoid =>
      have hpart := Option.some.inj h
      unfold Component.ofPart at hpart
      split at hpart
      · exact nomatch hpart
      · next habove =>
        obtain rfl := Component.name.inj hpart
        exact ⟨rfl, by simpa using hvoid, habove⟩
  · rintro ⟨rfl, hvoid, habove⟩
    rw [hvoid, Component.ofPart, if_neg habove]
    rfl

/-- A name with an extension is a stem that is not empty, a dot, and the extension without dots. -/
theorem extensionOf?_eq_some_iff {name ending : Bytes} :
    extensionOf? name = some ending ↔
      dot ∉ ending ∧ ∃ stem, stem ≠ [] ∧ name = stem ++ dot :: ending := by
  unfold extensionOf?
  constructor
  · intro h
    obtain ⟨hlength, hending⟩ := Option.ite_none_right_eq_some.mp h
    have hsplit := List.takeWhile_append_dropWhile (p := (· ≠ dot)) (l := name.reverse)
    have hcount := congrArg List.length hsplit
    rw [List.length_append, List.length_reverse] at hcount
    have hnot := List.head?_dropWhile_not (· ≠ dot) name.reverse
    -- What stands behind the last dot is shorter than the name, so there is a dot.
    cases hrest : name.reverse.dropWhile (· ≠ dot) with
    | nil =>
      rw [hrest, List.length_nil] at hcount
      omega
    | cons b stem =>
      rw [hrest] at hsplit hcount hnot
      rw [List.length_cons] at hcount
      have hb : b = dot := by simpa using hnot
      have hname := congrArg List.reverse hsplit
      rw [List.reverse_reverse, List.reverse_append, List.reverse_cons, List.append_assoc,
        Option.some.inj hending, hb] at hname
      refine ⟨?_, stem.reverse, ?_, hname.symm⟩
      · rw [← Option.some.inj hending, List.mem_reverse]
        intro hmem
        simpa using List.mem_takeWhile_imp hmem
      · intro hstem
        rw [List.reverse_eq_nil_iff.mp hstem] at hcount
        simp only [List.length_nil] at hcount
        omega
  · rintro ⟨hdot, stem, hstem, rfl⟩
    have htaken : (stem ++ dot :: ending).reverse.takeWhile (· ≠ dot) = ending.reverse := by
      rw [List.reverse_append, List.reverse_cons, List.append_assoc, List.singleton_append,
        takeWhile_reverse_append hdot]
    have hlength := List.length_pos_iff.mpr hstem
    rw [htaken, if_pos (by simp; omega), List.reverse_reverse]

theorem contains_fileExtensions_iff {ending : Bytes} :
    fileExtensions.contains (ending.map lowerByte) = true ↔ ending = [0x7a] ∨ ending = [0x5a] := by
  have hbyte : ∀ b, lowerByte b = 0x7a ↔ b = 0x7a ∨ b = 0x5a := by
    intro b
    simp only [lowerByte]
    split
    · next hcapital =>
      simp only [UInt8.le_iff_toNat_le, ← UInt8.toNat_inj, UInt8.toNat_add, UInt8.reduceToNat] at *
      omega
    · next hother =>
      simp only [UInt8.le_iff_toNat_le, ← UInt8.toNat_inj, UInt8.reduceToNat] at *
      omega
  cases ending with
  | nil => simp [fileExtensions]
  | cons b rest => cases rest <;> simp [fileExtensions, hbyte]

/-- A path is the path of a Z file exactly if its last part is a stem that is not empty before `.z`
or `.Z`. -/
theorem hasZExtension_iff {path : Path} :
    path.hasZExtension = true ↔
      ∃ stem, stem ≠ [] ∧
        (lastPart path.bytes = stem ++ [dot, 0x7a] ∨ lastPart path.bytes = stem ++ [dot, 0x5a]) := by
  have hz : path.hasZExtension = true ↔
      ∃ name ending, path.fileName? = some name ∧ extensionOf? name = some ending ∧
        (ending = [0x7a] ∨ ending = [0x5a]) := by
    rw [hasZExtension, Option.any_eq_true, extension?]
    simp only [contains_fileExtensions_iff, Option.bind_eq_some_iff]
    exact ⟨fun ⟨ending, ⟨name, hname, hending⟩, hletter⟩ => ⟨name, ending, hname, hending, hletter⟩,
      fun ⟨name, ending, hname, hending, hletter⟩ => ⟨ending, ⟨name, hname, hending⟩, hletter⟩⟩
  rw [hz]
  constructor
  · rintro ⟨name, ending, hname, hending, hletter⟩
    obtain ⟨-, stem, hstem, hparts⟩ := extensionOf?_eq_some_iff.mp hending
    refine ⟨stem, hstem, ?_⟩
    rw [(fileName?_eq_some_iff.mp hname).1, hparts]
    exact hletter.imp (fun h => by rw [h]) fun h => by rw [h]
  · rintro ⟨stem, hstem, hlast⟩
    -- The parts that are no names have two bytes at most, and here there are three at least.
    have hlong : ∀ (b : UInt8) (part : Bytes), part.length ≤ 2 → stem ++ [dot, b] ≠ part := by
      rintro b part hlength rfl
      have hpos := List.length_pos_iff.mpr hstem
      simp only [List.length_append, List.length_cons, List.length_nil] at hlength
      omega
    have hname : ∀ b, lastPart path.bytes = stem ++ [dot, b] →
        path.fileName? = some (stem ++ [dot, b]) := fun b hlast =>
      fileName?_eq_some_iff.mpr ⟨hlast,
        isVoid_eq_false_iff.mpr ⟨hlong b [] (by decide), hlong b here (by decide)⟩,
        hlong b above (by decide)⟩
    rcases hlast with hlast | hlast
    · exact ⟨_, [0x7a], hname _ hlast,
        extensionOf?_eq_some_iff.mpr ⟨by decide, stem, hstem, rfl⟩, .inl rfl⟩
    · exact ⟨_, [0x5a], hname _ hlast,
        extensionOf?_eq_some_iff.mpr ⟨by decide, stem, hstem, rfl⟩, .inr rfl⟩

/-! ## What stands before the last part -/

theorem hasZExtension_congr {first second : Path}
    (hlast : lastPart first.bytes = lastPart second.bytes) :
    first.hasZExtension = second.hasZExtension := by
  rw [Bool.eq_iff_iff, hasZExtension_iff, hasZExtension_iff, hlast]

/-- A last part that names something is the last part under every directory. -/
theorem lastPart_behind {bytes : Bytes} (hnames : isVoid (lastPart bytes) = false)
    (directory : Bytes) : lastPart (directory ++ slash :: bytes) = lastPart bytes := by
  -- The steps of the path come last, and there is at least one of them.
  apply lastPart_eq_of_getLast?_steps
  rw [split_append_slash, steps_append, List.getLast?_append, getLast?_steps, hnames]
  rfl

/-- A last part that names something is the last part of the absolute path, too. -/
theorem lastPart_of_absolute {ε : Type} {path whole : Path} {current : Except ε Path}
    (hnames : isVoid (lastPart path.bytes) = false)
    (hcurrent : ∀ base, current = .ok base → base.isAbsolute = true)
    (hwhole : path.absolute current = .ok whole) : lastPart whole.bytes = lastPart path.bytes := by
  obtain ⟨base, -, -, -, hsteps⟩ := exists_base_of_absolute hcurrent hwhole
  apply lastPart_eq_of_getLast?_steps
  rw [hsteps, List.getLast?_append, getLast?_steps, hnames]
  rfl

theorem exists_absolute_of_current (ε : Type) (path base : Path) :
    ∃ whole, path.absolute (.ok base : Except ε Path) = .ok whole := by
  rw [absolute_eq]
  cases path.isAbsolute with
  | true => exact ⟨_, rfl⟩
  | false => exact ⟨_, rfl⟩

/-- A path is the path of a Z file exactly if its last part, but for slashes and `/.` parts at the
end, is at least one byte before `.z` or `.Z`. Another slash or `/.` at the end changes nothing about
it. If the last part is neither empty nor a dot, then putting the path under a directory and making
it absolute change nothing about it either. -/
theorem hasZExtension_by_lastPart :
    (∀ path : Path, path.hasZExtension = true ↔
      ∃ stem, stem ≠ [] ∧
        (lastPart path.bytes = stem ++ Text.toBytes ".z" ∨
          lastPart path.bytes = stem ++ Text.toBytes ".Z")) ∧
    (∀ bytes, hasZExtension ⟨bytes ++ [slash]⟩ = hasZExtension ⟨bytes⟩ ∧
      hasZExtension ⟨bytes ++ [slash, dot]⟩ = hasZExtension ⟨bytes⟩) ∧
    ∀ bytes, lastPart bytes ≠ [] → lastPart bytes ≠ here →
      (∀ directory, hasZExtension ⟨directory ++ slash :: bytes⟩ = hasZExtension ⟨bytes⟩) ∧
      ∀ base : Path, base.isAbsolute = true →
        ∃ whole, absolute ⟨bytes⟩ (.ok base : Except SystemError Path) = .ok whole ∧
          whole.hasZExtension = hasZExtension ⟨bytes⟩ := by
  refine ⟨fun path => hasZExtension_iff, fun bytes => ⟨?_, ?_⟩, ?_⟩
  · exact hasZExtension_congr (lastPart_behind_void (by decide : isVoid [] = true) bytes)
  · exact hasZExtension_congr (lastPart_behind_void (by decide : isVoid here = true) bytes)
  · intro bytes hempty hhere
    have hnames := isVoid_eq_false_iff.mpr ⟨hempty, hhere⟩
    refine ⟨fun directory => hasZExtension_congr (lastPart_behind hnames directory), ?_⟩
    intro base hbase
    obtain ⟨whole, hwhole⟩ := exists_absolute_of_current SystemError ⟨bytes⟩ base
    refine ⟨whole, hwhole, hasZExtension_congr ?_⟩
    refine lastPart_of_absolute hnames (fun found hfound => ?_) hwhole
    rwa [← Except.ok.inj hfound]

example : ([".z", ".", "..", "z", "a.z.", "a.z.txt", "a.z/.."].map fun text =>
    hasZExtension (.ofText text)) = List.replicate 7 false := by
  decide +kernel

/-- A name that is not UTF-8, with a capital extension, behind a `..` and before slashes and a `/.`.
It names a Z file, and so it does from another directory. -/
theorem hasZExtension_by_lastPart_not_utf8 :
    let bytes := Text.toBytes "../specs/.y" ++ 0xff :: Text.toBytes ".Z//./"
    let directory := Text.toBytes "/my work"
    lastPart bytes ≠ [] ∧ lastPart bytes ≠ here ∧
      hasZExtension ⟨bytes⟩ = true ∧ hasZExtension ⟨directory ++ slash :: bytes⟩ = true ∧
      ∃ whole, absolute ⟨bytes⟩ (.ok ⟨directory⟩ : Except SystemError Path) = .ok whole ∧
        whole.hasZExtension = true := by
  intro bytes directory
  have hlast : lastPart bytes = Text.toBytes ".y" ++ 0xff :: Text.toBytes ".Z" := by decide +kernel
  have hempty : lastPart bytes ≠ [] := by
    rw [hlast]
    decide +kernel
  have hhere : lastPart bytes ≠ here := by
    rw [hlast]
    decide +kernel
  obtain ⟨hiff, -, hbefore⟩ := hasZExtension_by_lastPart
  have hz : hasZExtension ⟨bytes⟩ = true := by
    refine (hiff ⟨bytes⟩).mpr ⟨Text.toBytes ".y" ++ [0xff], List.append_ne_nil_of_right_ne_nil _
      (List.cons_ne_nil _ _), .inr ?_⟩
    rw [hlast, List.append_assoc]
    rfl
  obtain ⟨hdirectory, habsolute⟩ := hbefore bytes hempty hhere
  obtain ⟨whole, hwhole, hsame⟩ := habsolute ⟨directory⟩ (by decide +kernel)
  exact ⟨hempty, hhere, hz, (hdirectory directory).trans hz, whole, hwhole, hsame.trans hz⟩

end EditorBridge.Path
