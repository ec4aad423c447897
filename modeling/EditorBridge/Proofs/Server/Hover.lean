import EditorBridge.Proofs.Hover.Units
import EditorBridge.Proofs.Json
import EditorBridge.Proofs.Server.Handling
import EditorBridge.Proofs.Text.Lines

/-!
# Hover answers

What the server answers when the pointer rests on a place of an open document. The server counts
places in characters, while an editor that was told nothing else counts them in units of UTF-16.
Both agree on a line exactly if no keyword of the line stands behind a character that takes up two
units.

## Main definitions

* `Hover.Shown`: a token with a description is selected by a place of a document.
* `Hover.IsRight`: the answer that is due for a place, for whatever characters take up.

## Main results

* `Hover.infoAt?_behind_eq_some_iff`: what is found at a place.
* `Server.hover_isRight_iff`: where places in units of UTF-16 are answered as they should be.
-/

namespace EditorBridge

/-! ## Places counted from one -/

namespace Server

variable {n : UInt32}

theorem toNat_maxPosition : maxPosition.toNat = 4294967295 := rfl

theorem toNat_behind (n : UInt32) : (behind n).toNat = min (n.toNat + 1) maxPosition.toNat := by
  have hlt : n.toNat < 4294967296 := n.toNat_lt
  unfold behind
  split
  · next hmax =>
    subst hmax
    rfl
  · next hmax =>
    have hne : n.toNat ≠ maxPosition.toNat := fun heq => hmax (UInt32.toNat_inj.mp heq)
    rw [toNat_maxPosition] at hne ⊢
    rw [UInt32.toNat_add, UInt32.toNat_one]
    omega

theorem behind_ne_zero (n : UInt32) : behind n ≠ 0 := by
  intro hzero
  have hbehind := toNat_behind n
  rw [hzero, UInt32.toNat_zero, toNat_maxPosition] at hbehind
  omega

theorem behind_sub_one (hn : n ≠ maxPosition) : behind n - 1 = n := by
  rw [behind, if_neg hn, UInt32.add_sub_cancel]

/-- The index of a place counted from one is the place counted from zero, unless that is the
largest. -/
theorem index_behind (n : UInt32) :
    (behind n).toNat - 1 = n.toNat ∨ n = maxPosition ∧ (behind n).toNat - 1 = 4294967294 := by
  rw [toNat_behind, toNat_maxPosition, ← UInt32.toNat_inj, toNat_maxPosition]
  have hlt : n.toNat < 4294967296 := n.toNat_lt
  omega

/-- In a list that is not too long, the index of a place counted from one finds what stands at the
place. -/
theorem getElem?_behind {α : Type} {list : List α} (hlist : list.length < maxPosition.toNat) :
    list[(behind n).toNat - 1]? = list[n.toNat]? := by
  rw [toNat_maxPosition] at hlist
  rcases index_behind n with heq | ⟨rfl, heq⟩
  · rw [heq]
  · rw [heq, toNat_maxPosition, List.getElem?_eq_none (by omega), List.getElem?_eq_none (by omega)]

/-- In a line that is not too long, the index of a place counted from one selects what the place
selects. -/
theorem span?_behind {chars : List Char} (hchars : chars.length + 1 < maxPosition.toNat) :
    Hover.span? chars ((behind n).toNat - 1) = Hover.span? chars n.toNat := by
  rw [toNat_maxPosition] at hchars
  rcases index_behind n with heq | ⟨rfl, heq⟩
  · rw [heq]
  · rw [heq, toNat_maxPosition, Hover.span?_eq_none_of_lt (by omega),
      Hover.span?_eq_none_of_lt (by omega)]

end Server

/-! ## What is found -/

namespace Hover

open Server (behind maxPosition behind_ne_zero behind_sub_one)

variable {size : Char → Nat} {lines : List (List Char)} {chars : List Char} {line place : Nat}
  {span : Nat × Nat} {description : String}

/-- A token with a description is selected by a place of a line, where characters take up units of
a size. -/
structure Shown (size : Char → Nat) (lines : List (List Char)) (line place : Nat)
    (chars : List Char) (span : Nat × Nat) (description : String) : Prop where
  line_eq : lines[line]? = some chars
  selects : SelectsIn size chars place span
  described : describe? (String.ofList (slice chars span)) = some description

theorem Shown.isKeyword (hshown : Shown size lines line place chars span description) :
    IsKeyword chars span :=
  ⟨hshown.selects.1, by rw [hshown.described]; rfl⟩

/-- Among the lines of a text and among those that are found in it, the same is shown. -/
theorem shown_lines_iff {text : List Char} (hlines : Text.HasLines text lines) :
    Shown size (Text.lines text) line place chars span description ↔
      Shown size lines line place chars span description := by
  have hiff : IsToken chars span →
      ((Text.lines text)[line]? = some chars ↔ lines[line]? = some chars) := by
    intro htoken
    refine hlines.getElem?_lines_iff fun hempty => ?_
    have hlt := htoken.nonempty.trans_le htoken.le_length
    rw [hempty] at hlt
    exact Nat.not_lt_zero _ hlt
  exact ⟨fun ⟨hline, hselects, hdescribed⟩ => ⟨(hiff hselects.1).mp hline, hselects, hdescribed⟩,
    fun ⟨hline, hselects, hdescribed⟩ => ⟨(hiff hselects.1).mpr hline, hselects, hdescribed⟩⟩

/-- What is found at a place of a text that is not too long: the selected token with its
description. -/
theorem infoAt?_behind_eq_some_iff {text : String} {line column : UInt32} {info : Info}
    (hcount : (Text.lines text.toList).length < maxPosition.toNat)
    (hwidth : ∀ chars ∈ Text.lines text.toList, chars.length + 1 < maxPosition.toNat) :
    infoAt? text ⟨behind line, behind column⟩ = some info ↔
      ∃ chars span description,
        Shown (fun _ => 1) (Text.lines text.toList) line.toNat column.toNat chars span
          description ∧
        info = ⟨String.ofList (slice chars span), description,
          some ⟨behind line, span.1.toUInt32 + 1, span.2.toUInt32 + 1⟩⟩ := by
  simp only [infoAt?, wordAt?, Info.ofToken?, behind_ne_zero, or_self, if_false, bind, pure,
    Option.bind_eq_some_iff, Option.map_eq_some_iff, Server.getElem?_behind hcount]
  constructor
  · rintro ⟨_, ⟨chars, hline, span, hspan, hfound⟩, _, ⟨description, hdescribed, rfl⟩, hinfo⟩
    obtain rfl := Option.some.inj hfound
    rw [Server.span?_behind (hwidth chars (List.mem_of_getElem? hline))] at hspan
    exact ⟨chars, span, description,
      ⟨hline, selectsIn_one_iff.mpr (span?_eq_some_iff.mp hspan), hdescribed⟩,
      (Option.some.inj hinfo).symm⟩
  · rintro ⟨chars, span, description, ⟨hline, hselects, hdescribed⟩, rfl⟩
    have hspan := span?_eq_some_iff.mpr (selectsIn_one_iff.mp hselects)
    rw [← Server.span?_behind (hwidth chars (List.mem_of_getElem? hline))] at hspan
    exact ⟨_, ⟨chars, hline, span, hspan, rfl⟩, _, ⟨description, hdescribed, rfl⟩, rfl⟩

/-! ## What is answered -/

/-- The answer that shows a token of a line, with the places where it begins and ends. -/
def answerJson (token description : String) (line start stop : Nat) : Json :=
  .ofFields [
    ("contents", .ofFields [("kind", .string "markdown"),
      ("value", .string (Info.markdown ⟨token, description, none⟩))]),
    ("range", .ofFields [
      ("start", .ofFields [("line", .ofNat line), ("character", .ofNat start)]),
      ("end", .ofFields [("line", .ofNat line), ("character", .ofNat stop)])])]

/-- Where an answer says that the token begins. -/
def start? (answer : Json) : Option Json :=
  ((answer.field? "range").bind (·.field? "start")).bind (·.field? "character")

@[simp]
theorem start?_answerJson (token description : String) (line start stop : Nat) :
    start? (answerJson token description line start stop) = some (.ofNat start) := by
  simp [start?, answerJson, Json.ofFields, Json.field?]

/-- What is found in a line is answered with its places counted from zero. -/
theorem hoverJson_behind {line : UInt32} {start stop : Nat} (hline : line ≠ maxPosition)
    (hstart : start < UInt32.size) (hstop : stop < UInt32.size) (token description : String) :
    Rpc.hoverJson ⟨token, description,
        some ⟨behind line, start.toUInt32 + 1, stop.toUInt32 + 1⟩⟩ =
      answerJson token description line.toNat start stop := by
  have hfirst : start.toUInt32.toNat = start := UInt32.toNat_ofNat_of_lt' hstart
  have hlast : stop.toUInt32.toNat = stop := UInt32.toNat_ofNat_of_lt' hstop
  simp only [Rpc.hoverJson, Option.map_some, Rpc.rangeJson, Rpc.placeJson, Json.ofUInt32,
    behind_sub_one hline, UInt32.add_sub_cancel, hfirst, hlast]
  rfl

/-- The answer that is due for a place of a line, where characters take up units of a size: the
selected token with the places where it begins and ends, if it has a description, and otherwise
nothing. -/
structure IsRight (size : Char → Nat) (lines : List (List Char)) (line place : Nat)
    (answer : Except Rpc.Refusal Json) : Prop where
  shown : ∀ chars span description, Shown size lines line place chars span description →
    answer = .ok (answerJson (String.ofList (slice chars span)) description line
      (offset size chars span.1) (offset size chars span.2))
  silent : (∀ chars span description, ¬ Shown size lines line place chars span description) →
    answer = .ok .null

/-- Counted in characters, what is found at a place is what is due. -/
theorem isRight_infoAt? {text : String} (hlines : Text.HasLines text.toList lines)
    (hcount : lines.length < maxPosition.toNat)
    (hwidth : ∀ chars ∈ lines, chars.length + 1 < maxPosition.toNat) (line column : UInt32) :
    IsRight (fun _ => 1) lines line.toNat column.toNat
      (.ok (.ofOption Rpc.hoverJson (infoAt? text ⟨behind line, behind column⟩))) := by
  have hfound : ∀ info, infoAt? text ⟨behind line, behind column⟩ = some info ↔ _ := fun _ =>
    infoAt?_behind_eq_some_iff (hlines.length_lines_le.trans_lt hcount)
      fun chars hchars => hwidth chars (hlines.mem_of_mem_lines hchars)
  constructor
  · intro chars span description hshown
    have hmem := List.mem_of_getElem? hshown.line_eq
    obtain ⟨hlast, -⟩ := List.getElem?_eq_some_iff.mp hshown.line_eq
    have hstart := hshown.isKeyword.1.start_le_length
    have hstop := hshown.isKeyword.1.le_length
    have hline : line ≠ maxPosition := by
      rintro rfl
      exact Nat.lt_asymm hlast hcount
    have hsize : chars.length < UInt32.size :=
      (Nat.lt_of_succ_lt (hwidth chars hmem)).trans maxPosition.toNat_lt
    rw [(hfound _).mpr ⟨chars, span, description, (shown_lines_iff hlines).mpr hshown, rfl⟩,
      Json.ofOption, hoverJson_behind hline (hstart.trans_lt hsize) (hstop.trans_lt hsize),
      offset_one hstart, offset_one hstop]
  · intro hnone
    have hsilent : infoAt? text ⟨behind line, behind column⟩ = none := by
      by_contra hsome
      obtain ⟨info, hinfo⟩ := Option.ne_none_iff_exists'.mp hsome
      obtain ⟨chars, span, description, hshown, -⟩ := (hfound info).mp hinfo
      exact hnone _ _ _ ((shown_lines_iff hlines).mp hshown)
    rw [hsilent]
    rfl

/-- Where no wide character stands before a token, it is shown in units exactly if it is shown in
characters. -/
theorem shown_utf16_iff (hkeyword : IsKeyword chars span)
    (hnarrow : ∀ c ∈ chars.take span.1, Text.utf16Size c = 1) :
    Shown Text.utf16Size lines line place chars span description ↔
      Shown (fun _ => 1) lines line place chars span description := by
  have hselects : SelectsIn Text.utf16Size chars place span ↔
      SelectsIn (fun _ => 1) chars place span :=
    (selectsIn_iff_of_narrow Text.utf16Size_pos (hkeyword.narrow hnarrow)).trans
      selectsIn_one_iff.symm
  exact ⟨fun ⟨hline, hplace, hdescribed⟩ => ⟨hline, hselects.mp hplace, hdescribed⟩,
    fun ⟨hline, hplace, hdescribed⟩ => ⟨hline, hselects.mpr hplace, hdescribed⟩⟩

/-- On a line without wide characters before its keywords, the answer that is due in characters is
due in units of UTF-16. -/
theorem IsRight.of_narrow {answer : Except Rpc.Refusal Json}
    (hright : IsRight (fun _ => 1) lines line place answer)
    (hnarrow : ∀ chars span, lines[line]? = some chars → IsKeyword chars span →
      ∀ c ∈ chars.take span.1, Text.utf16Size c = 1) :
    IsRight Text.utf16Size lines line place answer where
  shown := by
    intro chars span description hshown
    have hkeyword := hshown.isKeyword
    have hbefore := hnarrow chars span hshown.line_eq hkeyword
    have hplaces : ∀ i ≤ span.2, offset Text.utf16Size chars i = offset (fun _ => 1) chars i := by
      intro i hi
      have hlength := hi.trans hkeyword.1.le_length
      rw [offset_of_narrow (hkeyword.narrow hbefore) hi hlength, offset_one hlength]
    rw [hplaces _ hkeyword.1.nonempty.le, hplaces _ (Nat.le_refl _)]
    exact hright.shown _ _ _ ((shown_utf16_iff hkeyword hbefore).mp hshown)
  silent := by
    refine fun hnone => hright.silent fun chars span description hshown => ?_
    have hkeyword := hshown.isKeyword
    have hbefore := hnarrow chars span hshown.line_eq hkeyword
    exact hnone _ _ _ ((shown_utf16_iff hkeyword hbefore).mpr hshown)

/-- If the answer at the place where a keyword begins is due both in units and in characters, some
keyword begins at the index with the number of that place. -/
theorem IsRight.exists_keyword {answer : Except Rpc.Refusal Json} (hsize : ∀ c, 0 < size c)
    (hline : lines[line]? = some chars) (hkeyword : IsKeyword chars span)
    (hcharacters : IsRight (fun _ => 1) lines line (offset size chars span.1) answer)
    (hunits : IsRight size lines line (offset size chars span.1) answer) :
    ∃ other, IsKeyword chars other ∧ other.1 = offset size chars span.1 := by
  obtain ⟨htoken, hdescribed⟩ := hkeyword
  obtain ⟨description, hdescription⟩ := Option.isSome_iff_exists.mp hdescribed
  have hselects : SelectsIn size chars (offset size chars span.1) span :=
    ⟨htoken, .inl ⟨Nat.le_refl _, offset_lt_offset hsize htoken.nonempty htoken.le_length⟩⟩
  have hanswer := hunits.shown _ _ _ ⟨hline, hselects, hdescription⟩
  -- The server has answered in characters, so what it has shown begins at the index it names.
  by_cases hshown : ∃ chars' other description',
      Shown (fun _ => 1) lines line (offset size chars span.1) chars' other description'
  · obtain ⟨chars', other, description', hshown⟩ := hshown
    obtain rfl := Option.some.inj (hline.symm.trans hshown.line_eq)
    have hlength := hshown.isKeyword.1.start_le_length
    have hsame := Except.ok.inj ((hcharacters.shown _ _ _ hshown).symm.trans hanswer)
    have hbegin := congrArg start? hsame
    rw [start?_answerJson, start?_answerJson, offset_one hlength] at hbegin
    exact ⟨other, hshown.isKeyword, Json.ofNat_inj.mp (Option.some.inj hbegin)⟩
  · have hnull := hcharacters.silent fun chars' other description' hother =>
      hshown ⟨chars', other, description', hother⟩
    have hbegin := congrArg start? (Except.ok.inj (hnull.symm.trans hanswer))
    rw [start?_answerJson] at hbegin
    exact nomatch hbegin

/-- If for every place where a keyword begins some keyword begins at the index with the same number,
no wide character stands before a keyword. -/
theorem narrow_of_exists_keyword (hsize : ∀ c, 0 < size c)
    (hbegins : ∀ span, IsKeyword chars span →
      ∃ other, IsKeyword chars other ∧ other.1 = offset size chars span.1)
    (hkeyword : IsKeyword chars span) : ∀ c ∈ chars.take span.1, size c = 1 := by
  -- The other keyword does not begin before this one, so the induction goes towards the end of the
  -- line, where for the last keyword both are the same.
  induction hrest : chars.length - span.1 using Nat.strong_induction_on generalizing span with
  | _ rest ih =>
    have hlength := hkeyword.1.start_le_length
    obtain ⟨other, hother, hbegin⟩ := hbegins span hkeyword
    have hle := le_offset hsize hlength
    rcases Nat.eq_or_lt_of_le hle with heq | hlt
    · exact narrow_of_offset_eq hsize hlength heq.symm
    · have hend := hother.1.nonempty.trans_le hother.1.le_length
      have hnarrow := ih (chars.length - other.1) (by omega) hother rfl
      exact fun c hc => hnarrow c (List.take_subset_take_left chars (by omega) hc)

end Hover

namespace Server

open Hover

variable {server : Server} {url : Url} {text : String} {lines : List (List Char)}

/-- A place of an open document is answered with what is found there. -/
theorem answer_hover (world : World) (hcontent : server.documents.content? url = some text)
    (line character : UInt32) :
    ((Rpc.handle (.hover url line character)).run world server).answer =
      .ok (.ofOption Rpc.hoverJson (infoAt? text ⟨behind line, behind character⟩)) := by
  simp [Rpc.handle, hover, hcontent]

/-- Counted in characters, every place of an open document is answered as it should be. -/
theorem hover_isRight_characters (world : World)
    (hcontent : server.documents.content? url = some text)
    (hlines : Text.HasLines text.toList lines) (hcount : lines.length < maxPosition.toNat)
    (hwidth : ∀ chars ∈ lines, chars.length + 1 < maxPosition.toNat) (line character : UInt32) :
    IsRight (fun _ => 1) lines line.toNat character.toNat
      ((Rpc.handle (.hover url line character)).run world server).answer := by
  rw [answer_hover world hcontent]
  exact isRight_infoAt? hlines hcount hwidth line character

/-- The server announces no encoding of places, so an editor counts them in units of UTF-16. Every
place of an open document is answered as it should be counted in characters: with the keyword that
it selects and with the characters where that begins and ends, and with nothing where it selects no
keyword. Counted in units of UTF-16, all places of a line are answered as they should be exactly if
no keyword of the line stands behind a character that takes up two units. -/
theorem hover_isRight_iff (world : World) (hcontent : server.documents.content? url = some text)
    (hlines : Text.HasLines text.toList lines) (hcount : lines.length < maxPosition.toNat)
    (hwidth : ∀ chars ∈ lines,
      offset Text.utf16Size chars chars.length + 1 < maxPosition.toNat) :
    let answer := fun line character : UInt32 =>
      ((Rpc.handle (.hover url line character)).run world server).answer
    (Rpc.welcome.field? "capabilities").map (·.field? "positionEncoding") = some none ∧
    (∀ line character,
      IsRight (fun _ => 1) lines line.toNat character.toNat (answer line character)) ∧
    ∀ line,
      (∀ character,
        IsRight Text.utf16Size lines line.toNat character.toNat (answer line character)) ↔
      ∀ chars span, lines[line.toNat]? = some chars → IsKeyword chars span →
        ∀ c ∈ chars.take span.1, Text.utf16Size c = 1 := by
  intro answer
  have hcharacters : ∀ line character,
      IsRight (fun _ => 1) lines line.toNat character.toNat (answer line character) :=
    hover_isRight_characters world hcontent hlines hcount fun chars hchars => by
      have hle := le_offset Text.utf16Size_pos (Nat.le_refl chars.length)
      have hlt := hwidth chars hchars
      omega
  refine ⟨by simp [Rpc.welcome, Rpc.serverCapabilities, Json.ofFields, Json.field?], hcharacters,
    fun line => ⟨fun hright chars span hline hkeyword => ?_,
      fun hnarrow character => (hcharacters line character).of_narrow hnarrow⟩⟩
  refine narrow_of_exists_keyword Text.utf16Size_pos (fun span hkeyword => ?_) hkeyword
  -- The editor can ask about the place where the keyword begins.
  obtain ⟨character, hcharacter⟩ : ∃ character : UInt32,
      character.toNat = offset Text.utf16Size chars span.1 := by
    refine ⟨(offset Text.utf16Size chars span.1).toUInt32, UInt32.toNat_ofNat_of_lt' ?_⟩
    have hlength := hkeyword.1.start_le_length
    have hle := (offset_le_offset_iff Text.utf16Size_pos hlength (Nat.le_refl _)).mpr hlength
    have hlt := Nat.lt_of_succ_lt (hwidth chars (List.mem_of_getElem? hline))
    exact (hle.trans_lt hlt).trans maxPosition.toNat_lt
  have hboth := And.intro (hcharacters line character) (hright character)
  rw [hcharacter] at hboth
  exact hboth.1.exists_keyword Text.utf16Size_pos hline hkeyword hboth.2

/-- Behind a line with an emoji, all places of a line with a keyword are answered as they should
be. -/
theorem hover_isRight_iff_import :
    let url : Url := ⟨"file", some ⟨"", "", none⟩, .segments ["a.z"], none, none⟩
    let text := "x é\t😀\r\n  #import\n"
    let lines := ["x é\t😀".toList, "  #import".toList, []]
    let server : Server := (start {} none).mapDocuments (·.opened url "z" text 1)
    ∀ character : UInt32, IsRight Text.utf16Size lines 1 character.toNat
      ((Rpc.handle (.hover url 1 character)).run ⟨.empty, [], []⟩ server).answer := by
  intro url text lines server
  have hlines : Text.HasLines text.toList lines := by
    have htext : text.toList =
        "x é\t😀".toList ++ '\r' :: '\n' :: ("  #import".toList ++ '\n' :: []) := by
      decide +kernel
    rw [htext]
    exact .returnFeed (by decide +kernel) (by decide +kernel) (.feed (by decide +kernel)
      (by decide +kernel) (.last (by decide +kernel) (by decide +kernel)))
  have hcontent : server.documents.content? url = some text := by decide +kernel
  have hcount : lines.length < maxPosition.toNat := by simp [lines, toNat_maxPosition]
  have hwidth : ∀ chars ∈ lines,
      offset Text.utf16Size chars chars.length + 1 < maxPosition.toNat := by
    have hall : (lines.all fun chars => offset Text.utf16Size chars chars.length ≤ 9) = true := by
      decide +kernel
    intro chars hchars
    have hle := of_decide_eq_true (List.all_eq_true.mp hall chars hchars)
    rw [toNat_maxPosition]
    omega
  have hiff := (hover_isRight_iff ⟨.empty, [], []⟩ hcontent hlines hcount hwidth).2.2 1
  refine hiff.mpr fun chars span hline _ c hc => ?_
  have hnarrow : ("  #import".toList.all fun c => Text.utf16Size c == 1) = true := by
    decide +kernel
  rw [← Option.some.inj hline] at hc
  exact beq_iff_eq.mp (List.all_eq_true.mp hnarrow c (List.mem_of_mem_take hc))

/-- Where an emoji stands before a keyword, the place directly behind the keyword is answered with
nothing, and on the keyword the range of the answer is that of other characters. -/
theorem hover_behind_emoji :
    let url : Url := ⟨"file", some ⟨"", "", none⟩, .segments ["a.z"], none, none⟩
    let chars := ['😀', ' ', 'i', 'n', 't']
    let server : Server :=
      (start {} none).mapDocuments (·.opened url "z" (String.ofList chars) 1)
    let answer := fun character : UInt32 =>
      ((Rpc.handle (.hover url 0 character)).run ⟨.empty, [], []⟩ server).answer
    Shown Text.utf16Size [chars] 0 6 chars (2, 5) "Integer type" ∧ answer 6 = .ok .null ∧
    Shown Text.utf16Size [chars] 0 4 chars (2, 5) "Integer type" ∧
      offset Text.utf16Size chars 2 = 3 ∧ offset Text.utf16Size chars 5 = 6 ∧
      answer 4 = .ok (answerJson "int" "Integer type" 0 2 5) ∧
    ¬ IsRight Text.utf16Size [chars] 0 6 (answer 6) ∧
    ¬ IsRight Text.utf16Size [chars] 0 4 (answer 4) := by
  intro url chars server answer
  have hstart : offset Text.utf16Size chars 2 = 3 := by decide
  have hstop : offset Text.utf16Size chars 5 = 6 := by decide
  have hbehind : Shown Text.utf16Size [chars] 0 6 chars (2, 5) "Integer type" := by
    have hselects := (selectsIn_offset_iff Text.utf16Size_pos (i := 5) (by decide)).mpr
      (span?_eq_some_iff.mp (by decide +kernel : span? chars 5 = some (2, 5)))
    rw [hstop] at hselects
    exact ⟨rfl, hselects, by decide +kernel⟩
  have hon : Shown Text.utf16Size [chars] 0 4 chars (2, 5) "Integer type" := by
    refine ⟨rfl, ⟨hbehind.selects.1, .inl ?_⟩, hbehind.described⟩
    rw [hstart, hstop]
    decide
  have hcontent : server.documents.content? url = some (String.ofList chars) := by decide +kernel
  have hanswer : ∀ character, answer character =
      .ok (.ofOption Rpc.hoverJson (infoAt? (String.ofList chars) ⟨behind 0, behind character⟩)) :=
    answer_hover _ hcontent 0
  have hnull : answer 6 = .ok .null := by
    have hnone : infoAt? (String.ofList chars) ⟨behind 0, behind 6⟩ = none := by decide +kernel
    rw [hanswer, hnone]
    rfl
  have hrange : answer 4 = .ok (answerJson "int" "Integer type" 0 2 5) := by
    have hfound : infoAt? (String.ofList chars) ⟨behind 0, behind 4⟩ =
        some ⟨"int", "Integer type", some ⟨behind 0, (2 : Nat).toUInt32 + 1,
          (5 : Nat).toUInt32 + 1⟩⟩ := by decide +kernel
    rw [hanswer, hfound, Json.ofOption,
      hoverJson_behind (by decide) (by decide) (by decide)]
    rfl
  refine ⟨hbehind, hnull, hon, hstart, hstop, hrange, fun hright => ?_, fun hright => ?_⟩
  · have hbegin := congrArg start? (Except.ok.inj (hnull.symm.trans (hright.shown _ _ _ hbehind)))
    rw [start?_answerJson] at hbegin
    exact nomatch hbegin
  · have hbegin := congrArg start? (Except.ok.inj (hrange.symm.trans (hright.shown _ _ _ hon)))
    rw [start?_answerJson, start?_answerJson, hstart] at hbegin
    exact absurd (Json.ofNat_inj.mp (Option.some.inj hbegin)) (by decide)

end Server

end EditorBridge
