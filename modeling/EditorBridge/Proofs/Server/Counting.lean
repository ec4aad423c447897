import EditorBridge.Proofs.Hover.Word
import EditorBridge.Proofs.Server.Hover

/-!
# Counting without a bound

A hover is looked up with lines and columns that are counted from one, while an editor counts them
from zero, and all these numbers have 32 bits. Here the lookup is done in numbers without a bound.
In a text whose lines are not too many and not too long, both come to the same for every place that
an editor can ask about: no number on the way is too large for its bits, and one is taken away from
none that is zero.

## Main definitions

* `Found`, `foundAt?`: what is found at a place, in numbers without a bound.
* `Found.Covers`: where the token stands that is found at a place.
* `WordRange.Exact`: a range has the numbers of what is found.
* `IsSmall`: the lines of a text are not too many and not too long.

## Main results

* `Hover.infoAt?_eq_map_info`: the lookup finds this in every text, with all numbers cut to 32 bits.
* `Hover.IsSmall.exists_spells`: every word that is looked up has its exact line and columns.
* `Hover.foundAt?_behind`: that a number stays the largest changes nothing that is found.
* `Server.hover_counts_from_zero`: what an editor is answered, with all numbers one lower.
-/

namespace EditorBridge

namespace Hover

open Server (behind maxPosition)

/-- A token with a description and the place where it stands, counted from one without a bound. -/
structure Found where
  /-- The token. -/
  token : String
  /-- Its description. -/
  description : String
  /-- Its line. -/
  line : Nat
  /-- The column of its first character. -/
  startCol : Nat
  /-- The column behind its last character. -/
  endCol : Nat
deriving DecidableEq, Repr

/-- What is found at a line and a column, both counted from one without a bound. -/
def foundAt? (source : String) (line column : Nat) : Option Found :=
  if line = 0 ∨ column = 0 then none
  else do
    let chars ← (Text.lines source.toList)[line - 1]?
    let span ← span? chars (column - 1)
    let token := String.ofList (slice chars span)
    let description ← describe? token
    return ⟨token, description, line, span.1 + 1, span.2 + 1⟩

/-- What is found, with all numbers cut to 32 bits. -/
def Found.info (found : Found) : Info :=
  ⟨found.token, found.description,
    some ⟨found.line.toUInt32, found.startCol.toUInt32, found.endCol.toUInt32⟩⟩

/-- What is found at a line and a column stands on that line, and the column lies between its first
character and the place behind its last one. -/
structure Found.Covers (found : Found) (line column : Nat) : Prop where
  line_eq : found.line = line
  start_pos : 0 < found.startCol
  start_le : found.startCol ≤ column
  le_end : column ≤ found.endCol
  start_lt_end : found.startCol < found.endCol

/-- A range has the numbers of what is found, and none of them is zero. -/
structure WordRange.Exact (range : WordRange) (found : Found) : Prop where
  line_eq : range.line.toNat = found.line
  start_eq : range.startCol.toNat = found.startCol
  end_eq : range.endCol.toNat = found.endCol
  line_pos : 0 < range.line
  start_pos : 0 < range.startCol
  end_pos : 0 < range.endCol

variable {source : String} {line column : Nat} {found : Found}

/-! ## The lookup -/

/-- In every text, the lookup finds at every position what is found without a bound, with all
numbers cut to 32 bits. -/
theorem infoAt?_eq_map_info (source : String) (position : Position) :
    infoAt? source position =
      (foundAt? source position.line.toNat position.column.toNat).map Found.info := by
  have hcut : ∀ n : Nat, (n + 1).toUInt32 = n.toUInt32 + 1 := fun n => UInt32.ofNat_add n 1
  have hline : position.line.toNat.toUInt32 = position.line := UInt32.ofNat_toNat
  have hplace : (position.line.toNat = 0 ∨ position.column.toNat = 0) ↔
      (position.line = 0 ∨ position.column = 0) :=
    or_congr (UInt32.toNat_inj (b := 0)) (UInt32.toNat_inj (b := 0))
  -- Both lookups go through the same steps, so they fail at the same one.
  rw [infoAt?, wordAt?, foundAt?]
  by_cases hzero : position.line = 0 ∨ position.column = 0
  · rw [if_pos hzero, if_pos (hplace.mpr hzero)]
    rfl
  rw [if_neg hzero, if_neg (hplace.not.mpr hzero)]
  cases (Text.lines source.toList)[position.line.toNat - 1]? with
  | none => rfl
  | some chars =>
    cases hspan : span? chars (position.column.toNat - 1) with
    | none => simp [hspan]
    | some span =>
      cases hdescribed : describe? (String.ofList (slice chars span)) with
      | none => simp [hspan, Info.ofToken?, hdescribed]
      | some description => simp [hspan, Info.ofToken?, hdescribed, Found.info, hcut, hline]

/-- Counted from zero, what is found at a place is the token that the place selects. -/
theorem foundAt?_succ_eq_some_iff :
    foundAt? source (line + 1) (column + 1) = some found ↔
      ∃ chars span description, (Text.lines source.toList)[line]? = some chars ∧
        Selects chars column span ∧
        describe? (String.ofList (slice chars span)) = some description ∧
        found = ⟨String.ofList (slice chars span), description, line + 1, span.1 + 1,
          span.2 + 1⟩ := by
  simp only [foundAt?, Nat.add_eq_zero_iff, Nat.one_ne_zero, and_false, or_self, if_false,
    Nat.add_sub_cancel, bind, pure, Option.bind_eq_some_iff, span?_eq_some_iff]
  constructor
  · rintro ⟨chars, hline, span, hselects, description, hdescribed, hfound⟩
    exact ⟨chars, span, description, hline, hselects, hdescribed, (Option.some.inj hfound).symm⟩
  · rintro ⟨chars, span, description, hline, hselects, hdescribed, rfl⟩
    exact ⟨chars, hline, span, hselects, description, hdescribed, rfl⟩

/-- What is found at a place covers it. -/
theorem covers_of_foundAt? (hfound : foundAt? source (line + 1) (column + 1) = some found) :
    found.Covers (line + 1) (column + 1) := by
  obtain ⟨chars, span, description, -, hselects, -, rfl⟩ := foundAt?_succ_eq_some_iff.mp hfound
  exact {
    line_eq := rfl
    start_pos := Nat.succ_pos _
    start_le := Nat.succ_le_succ hselects.start_le
    le_end := Nat.succ_le_succ hselects.le
    start_lt_end := Nat.succ_lt_succ hselects.1.nonempty }

/-! ## Texts that are not too large -/

theorem toNat_behind_of_lt {n : UInt32} (hn : n.toNat + 1 < maxPosition.toNat) :
    (behind n).toNat = n.toNat + 1 := by
  rw [Server.toNat_behind, Nat.min_eq_left hn.le]

/-- A text has fewer lines, and each line fewer characters, than the last number but one. -/
structure IsSmall (source : String) : Prop where
  count_lt : (Text.lines source.toList).length < 2 ^ 32 - 2
  length_lt : ∀ chars ∈ Text.lines source.toList, chars.length < 2 ^ 32 - 2

/-- In a small text the places where something is found are far from the largest number. -/
theorem IsSmall.bounds (hsmall : IsSmall source)
    (hfound : foundAt? source (line + 1) (column + 1) = some found) :
    line + 1 < maxPosition.toNat ∧ column + 1 < maxPosition.toNat ∧
      found.endCol < maxPosition.toNat := by
  obtain ⟨chars, span, description, hline, hselects, -, rfl⟩ :=
    foundAt?_succ_eq_some_iff.mp hfound
  obtain ⟨hindex, -⟩ := List.getElem?_eq_some_iff.mp hline
  have hcount := hsmall.count_lt
  have hlength := hsmall.length_lt chars (List.mem_of_getElem? hline)
  have hstop := hselects.1.le_length
  have hcolumn := hselects.le
  rw [Server.toNat_maxPosition]
  refine ⟨by omega, by omega, ?_⟩
  change span.2 + 1 < 4294967295
  omega

/-- In a small text no line and no column has the largest number. So it changes nothing that is
found that behind the largest number stands the largest. -/
theorem foundAt?_behind (hsmall : IsSmall source) (line column : UInt32) :
    foundAt? source (behind line).toNat (behind column).toNat =
      foundAt? source (line.toNat + 1) (column.toNat + 1) := by
  have hcount : (Text.lines source.toList).length < maxPosition.toNat :=
    hsmall.count_lt.trans (by decide)
  have hzero : ∀ n : UInt32, (behind n).toNat ≠ 0 := fun n hn =>
    Server.behind_ne_zero n (UInt32.toNat_inj.mp hn)
  simp only [foundAt?, hzero, or_self, if_false, Nat.add_eq_zero_iff, Nat.one_ne_zero, and_false,
    Nat.add_sub_cancel, Server.getElem?_behind hcount]
  cases hline : (Text.lines source.toList)[line.toNat]? with
  | none => rfl
  | some chars =>
    -- The line is there, so its number is not the largest, and no column selects as far behind it.
    obtain ⟨hindex, -⟩ := List.getElem?_eq_some_iff.mp hline
    have hlength := hsmall.length_lt chars (List.mem_of_getElem? hline)
    have hwidth : chars.length + 1 < maxPosition.toNat := by
      rw [Server.toNat_maxPosition]
      omega
    have hline' : line.toNat + 1 < maxPosition.toNat := by
      have hlines := hsmall.count_lt
      rw [Server.toNat_maxPosition]
      omega
    simp only [bind, Option.bind_some, Server.span?_behind hwidth, toNat_behind_of_lt hline']

/-- In a small text, every word that is looked up behind a place spells the token that the place
selects, whether it has a description or not. So no number on the way is too large for its bits. -/
theorem IsSmall.exists_spells (hsmall : IsSmall source) {line character : UInt32} {word : String}
    {range : WordRange}
    (hfound : wordAt? source ⟨behind line, behind character⟩ = some (word, range)) :
    (behind line).toNat = line.toNat + 1 ∧ (behind character).toNat = character.toNat + 1 ∧
      ∃ chars span, (Text.lines source.toList)[line.toNat]? = some chars ∧
        Selects chars character.toNat span ∧ Spells (behind line) chars span word range := by
  obtain ⟨chars, i, span, hmarks, hselects, hspells⟩ :=
    exists_selects_of_wordAt? hsmall.length_lt hfound
  have hcount := hsmall.count_lt
  have hlength := hsmall.length_lt chars (List.mem_of_getElem? hmarks.line_eq)
  have hline : (Text.lines source.toList)[line.toNat]? = some chars := by
    rw [← Server.getElem?_behind (hcount.trans (by decide))]
    exact hmarks.line_eq
  obtain ⟨hindex, -⟩ := List.getElem?_eq_some_iff.mp hline
  -- The place lies in the line or right behind it, so its number is not the largest.
  have hplace : i ≤ chars.length := hselects.le.trans hselects.1.le_length
  have hcharacter : character.toNat = i := by
    have hcolumn := hmarks.column_eq
    rw [Server.toNat_behind, Server.toNat_maxPosition] at hcolumn
    omega
  refine ⟨toNat_behind_of_lt ?_, toNat_behind_of_lt ?_, chars, span, hline, ?_, hspells⟩
  · rw [Server.toNat_maxPosition]
    omega
  · rw [Server.toNat_maxPosition]
    omega
  · rwa [hcharacter]

/-- In a small text, cutting the numbers of what is found to 32 bits changes none of them. -/
theorem Found.exists_exact (hsmall : IsSmall source)
    (hfound : foundAt? source (line + 1) (column + 1) = some found) :
    ∃ range, found.info = ⟨found.token, found.description, some range⟩ ∧ range.Exact found := by
  obtain ⟨hline, -, hend⟩ := hsmall.bounds hfound
  rw [Server.toNat_maxPosition] at hline hend
  have hcovers := covers_of_foundAt? hfound
  have hstart := hcovers.start_pos
  have hlt := hcovers.start_lt_end
  have hcut : ∀ n < 2 ^ 32, n.toUInt32.toNat = n := fun n hn => UInt32.toNat_ofNat_of_lt' hn
  have hfirst : found.line.toUInt32.toNat = found.line :=
    hcut _ (by rw [hcovers.line_eq]; omega)
  have hsecond : found.startCol.toUInt32.toNat = found.startCol := hcut _ (by omega)
  have hthird : found.endCol.toUInt32.toNat = found.endCol := hcut _ (by omega)
  refine ⟨_, rfl, hfirst, hsecond, hthird, ?_, ?_, ?_⟩
  · rw [UInt32.lt_iff_toNat_lt, hfirst, hcovers.line_eq]
    exact Nat.succ_pos line
  · rwa [UInt32.lt_iff_toNat_lt, hsecond]
  · rw [UInt32.lt_iff_toNat_lt, hthird]
    exact hstart.trans hlt

/-! ## The answer -/

/-- One less than a number that is not zero. -/
theorem toNat_sub_one {n : UInt32} (hn : 0 < n) : (n - 1).toNat = n.toNat - 1 := by
  have hle : (1 : UInt32) ≤ n := by
    rw [UInt32.le_iff_toNat_le]
    exact UInt32.lt_iff_toNat_lt.mp hn
  rw [UInt32.toNat_sub_of_le _ _ hle, UInt32.toNat_one]

/-- What is found is answered with all its numbers one lower. -/
theorem WordRange.Exact.hoverJson_eq {range : WordRange} (hexact : range.Exact found) :
    Rpc.hoverJson ⟨found.token, found.description, some range⟩ =
      answerJson found.token found.description (found.line - 1) (found.startCol - 1)
        (found.endCol - 1) := by
  rw [← hexact.line_eq, ← hexact.start_eq, ← hexact.end_eq, ← toNat_sub_one hexact.line_pos,
    ← toNat_sub_one hexact.start_pos, ← toNat_sub_one hexact.end_pos]
  rfl

end Hover

namespace Server

open Hover

variable {server : Server} {url : Url} {text : String}

/-- A document that is not open is answered with nothing. -/
theorem answer_hover_of_closed (world : World) (line character : UInt32)
    (hclosed : server.documents.isOpen url = false) :
    ((Rpc.handle (.hover url line character)).run world server).answer = .ok .null := by
  have hnone : server.documents.content? url = none := by
    rw [Documents.content?, Option.not_isSome_iff_eq_none.mp (Bool.eq_false_iff.mp hclosed)]
    rfl
  simp [Rpc.handle, hover, hnone, Json.ofOption]

/-- In a small document that is open, a hover is what is found behind the place without a bound. -/
theorem run_hover (world : World) (hcontent : server.documents.content? url = some text)
    (hsmall : IsSmall text) (line character : UInt32) :
    ((hover url line character).run world server).answer =
      (foundAt? text (line.toNat + 1) (character.toNat + 1)).map Found.info := by
  rw [← foundAt?_behind hsmall, ← infoAt?_eq_map_info text ⟨behind line, behind character⟩]
  simp [hover, hcontent]

/-- In every state of the server and for every place that an editor can ask about, a document that
is not open is answered with nothing. In an open one that is small, the answer is what is found
behind the place, counted without a bound: nothing if that is nothing, and else the same token and
description with all numbers one lower. Nothing is taken away from a number that is zero. Where
something is found, the number behind each of the editor's is one more, and those of the range are
the ones that are found; the range lies on the editor's line, it is not empty, and the editor's
character lies between its ends. The same numbers are exact for every word that is looked up behind
the place, also for one without a description. What is found without a bound is what the lookup finds at every
position, with all numbers cut to 32 bits. -/
theorem hover_counts_from_zero (server : Server) (world : World) (url : Url)
    (line character : UInt32) :
    let shown := ((hover url line character).run world server).answer
    let answer := ((Rpc.handle (.hover url line character)).run world server).answer
    (∀ source position, infoAt? source position =
      (foundAt? source position.line.toNat position.column.toNat).map Found.info) ∧
    behind line ≠ 0 ∧ behind character ≠ 0 ∧
    (server.documents.isOpen url = false → answer = .ok .null) ∧
    ∀ text, server.documents.content? url = some text → IsSmall text →
      (∀ word range, wordAt? text ⟨behind line, behind character⟩ = some (word, range) →
        (behind line).toNat = line.toNat + 1 ∧ (behind character).toNat = character.toNat + 1 ∧
          ∃ chars span, (Text.lines text.toList)[line.toNat]? = some chars ∧
            Selects chars character.toNat span ∧ Spells (behind line) chars span word range) ∧
      (answer = .ok .null ↔ foundAt? text (line.toNat + 1) (character.toNat + 1) = none) ∧
      ∀ found, foundAt? text (line.toNat + 1) (character.toNat + 1) = some found →
        answer = .ok (answerJson found.token found.description (found.line - 1)
          (found.startCol - 1) (found.endCol - 1)) ∧
        ((behind line).toNat = line.toNat + 1 ∧ (behind character).toNat = character.toNat + 1 ∧
          ∃ range, shown = some ⟨found.token, found.description, some range⟩ ∧
            range.Exact found) ∧
        found.line - 1 = line.toNat ∧ found.startCol - 1 ≤ character.toNat ∧
        character.toNat ≤ found.endCol - 1 ∧ found.startCol - 1 < found.endCol - 1 := by
  intro shown answer
  refine ⟨infoAt?_eq_map_info, behind_ne_zero line, behind_ne_zero character,
    answer_hover_of_closed world line character, fun text hcontent hsmall => ?_⟩
  have hshown : shown = (foundAt? text (line.toNat + 1) (character.toNat + 1)).map Found.info :=
    run_hover world hcontent hsmall line character
  have hanswer : answer = .ok (.ofOption Rpc.hoverJson shown) := by
    simp [answer, shown, Rpc.handle]
  cases hfound : foundAt? text (line.toNat + 1) (character.toNat + 1) with
  | none =>
    rw [hfound] at hshown
    rw [hanswer, hshown]
    exact ⟨fun word range => hsmall.exists_spells, ⟨fun _ => rfl, fun _ => rfl⟩,
      fun found hsome => absurd hsome.symm (Option.some_ne_none found)⟩
  | some found =>
    -- Something is found, so no number was kept back at the largest and all fit into 32 bits.
    obtain ⟨range, hinfo, hexact⟩ := Found.exists_exact hsmall hfound
    obtain ⟨hline, hcharacter, -⟩ := hsmall.bounds hfound
    obtain ⟨hsame, hstart, hle, hend, hlt⟩ := covers_of_foundAt? hfound
    rw [hfound, Option.map_some, hinfo] at hshown
    rw [hanswer, hshown, Json.ofOption, hexact.hoverJson_eq]
    refine ⟨fun word range => hsmall.exists_spells,
      iff_of_false (by simp [answerJson, Json.ofFields]) (Option.some_ne_none found),
      fun other hother => ?_⟩
    obtain rfl := Option.some.inj hother
    exact ⟨rfl, ⟨toNat_behind_of_lt hline, toNat_behind_of_lt hcharacter, range, rfl, hexact⟩,
      by omega, by omega, by omega, by omega⟩

/-- Right behind a keyword the keyword is shown, with that place as its end. At the largest line,
at the largest character and at both nothing is shown, and neither is for another document. -/
theorem hover_counts_from_zero_limits :
    let url : Url := ⟨"file", some ⟨"", "", none⟩, .segments ["a.z"], none, none⟩
    let other : Url := ⟨"file", some ⟨"", "", none⟩, .segments ["b.z"], none, none⟩
    let server : Server := (start {} none).mapDocuments (·.opened url "z" "int x;" 1)
    let answer := fun (url : Url) (line character : UInt32) =>
      ((Rpc.handle (.hover url line character)).run ⟨.empty, [], []⟩ server).answer
    answer url 0 3 = .ok (answerJson "int" "Integer type" 0 0 3) ∧
      answer url maxPosition 0 = .ok .null ∧ answer url 0 maxPosition = .ok .null ∧
      answer url maxPosition maxPosition = .ok .null ∧ answer other 0 3 = .ok .null := by
  intro url other server answer
  have hcontent : server.documents.content? url = some "int x;" := by decide +kernel
  have hsmall : IsSmall "int x;" := ⟨by decide +kernel, by decide +kernel⟩
  have hcounts := fun line character =>
    (hover_counts_from_zero server ⟨.empty, [], []⟩ url line character).2.2.2.2 _ hcontent hsmall
  refine ⟨((hcounts 0 3).2.2 ⟨"int", "Integer type", 1, 1, 4⟩ (by decide +kernel)).1,
    (hcounts _ _).2.1.mpr ?_, (hcounts _ _).2.1.mpr ?_, (hcounts _ _).2.1.mpr ?_,
    (hover_counts_from_zero server ⟨.empty, [], []⟩ other 0 3).2.2.2.1 (by decide +kernel)⟩
  all_goals decide +kernel

end Server

end EditorBridge
