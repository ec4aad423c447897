import EditorBridge.Proofs.Documents.Store
import Mathlib.Data.List.Induction

/-!
# The editor's text and the server's

The editor and the server each follow one document through the same events. The editor puts every
text of a change in place of the one before, so that its last text stays. The server takes the
first. This module says exactly when the two agree.

## Main definitions

* `EditorBuffer`, `editorBuffer?`: a document as its editor has it after some events.
* `lastTexts?`: the last texts that events carry for a document.
* `lastVersion?`, `lastStoredVersion?`: the last version that events carry, and the last that comes
  with a text.

## Main results

* `documentAfter_eq_some`, `editorBuffer?_eq_some`: the server's text is the first and the editor's
  the last of the last texts.
* `mirrors_editor_iff`: when the server holds the editor's text and version.
-/

namespace EditorBridge

/-- A document as its editor has it. -/
structure EditorBuffer where
  /-- Its text. -/
  text : String
  /-- The version of the text. -/
  version : Int
deriving DecidableEq, Repr

namespace DocumentEvent

/-- What the editor's document becomes by an event: of a change's texts each replaces the one
before. -/
def edit : DocumentEvent → Option EditorBuffer → Option EditorBuffer
  | .opened _ text version, _ => some ⟨text, version⟩
  | .changed version texts, buffer =>
    buffer.map fun buffer => ⟨texts.foldl (fun _ text => text) buffer.text, version⟩
  | .saved text, buffer => buffer.map fun buffer => { buffer with text := text.getD buffer.text }
  | .closed, _ => none

/-- The texts an event carries, if it carries any. -/
def texts? : DocumentEvent → Option (List String)
  | .opened _ text _ => some [text]
  | .changed _ texts => if texts = [] then none else some texts
  | .saved text => text.map ([·])
  | .closed => none

/-- The version an event carries. -/
def version? : DocumentEvent → Option Int
  | .opened _ _ version | .changed version _ => some version
  | .saved _ | .closed => none

/-- The version an event carries, if a text comes with it. -/
def storedVersion? (event : DocumentEvent) : Option Int :=
  event.texts?.bind fun _ => event.version?

end DocumentEvent

/-- The document that the server holds after some events. -/
def documentAfter (events : List DocumentEvent) : Option OpenDocument :=
  events.foldl (fun held event => event.apply held) none

/-- The document that the editor has after some events. -/
def editorBuffer? (events : List DocumentEvent) : Option EditorBuffer :=
  events.foldl (fun buffer event => event.edit buffer) none

/-- The last texts that events carry. -/
def lastTexts? : List DocumentEvent → Option (List String) :=
  lastSaid? DocumentEvent.texts?

/-- The last version that events carry. -/
def lastVersion? : List DocumentEvent → Option Int :=
  lastSaid? DocumentEvent.version?

/-- The last version that comes with a text. -/
def lastStoredVersion? : List DocumentEvent → Option Int :=
  lastSaid? DocumentEvent.storedVersion?

variable (events : List DocumentEvent) (event : DocumentEvent)

@[simp]
theorem documentAfter_concat :
    documentAfter (events ++ [event]) = event.apply (documentAfter events) := by
  simp [documentAfter]

@[simp]
theorem editorBuffer?_concat :
    editorBuffer? (events ++ [event]) = event.edit (editorBuffer? events) := by
  simp [editorBuffer?]

@[simp]
theorem lastTexts?_concat : lastTexts? (events ++ [event]) = event.texts?.or (lastTexts? events) :=
  lastSaid?_concat _ events event

@[simp]
theorem lastVersion?_concat :
    lastVersion? (events ++ [event]) = event.version?.or (lastVersion? events) :=
  lastSaid?_concat _ events event

@[simp]
theorem lastStoredVersion?_concat :
    lastStoredVersion? (events ++ [event]) = event.storedVersion?.or (lastStoredVersion? events) :=
  lastSaid?_concat _ events event

/-- The last of some texts is what stays when each replaces the one before. -/
theorem foldl_replace (text : String) (texts : List String) :
    texts.foldl (fun _ text => text) text = texts.getLast?.getD text := by
  induction texts using List.reverseRecOn with
  | nil => rfl
  | append_singleton texts last _ => simp

/-- The server holds a document exactly if the editor has it open. -/
theorem isSome_documentAfter : (documentAfter events).isSome = (editorBuffer? events).isSome := by
  induction events using List.reverseRecOn with
  | nil => rfl
  | append_singleton events event ih =>
    rw [documentAfter_concat, editorBuffer?_concat]
    cases event <;> simp [DocumentEvent.apply, DocumentEvent.edit, ih]

/-- The text of a document that the server holds is the first of the last texts, and its version
the last that came with a text. -/
theorem documentAfter_eq_some {document : OpenDocument}
    (hheld : documentAfter events = some document) :
    (lastTexts? events).bind List.head? = some document.content ∧
      lastStoredVersion? events = some document.version := by
  induction events using List.reverseRecOn generalizing document with
  | nil => exact nomatch hheld
  | append_singleton events event ih =>
    rw [documentAfter_concat] at hheld
    rw [lastTexts?_concat, lastStoredVersion?_concat]
    cases event with
    | opened languageId text version =>
      cases hheld
      exact ⟨rfl, rfl⟩
    | changed version texts =>
      -- Without a text the change leaves both the text and the version of the events before it.
      obtain ⟨before, hbefore, rfl⟩ := Option.map_eq_some_iff.mp hheld
      cases texts with
      | nil => exact ⟨(ih hbefore).1, (ih hbefore).2⟩
      | cons first rest => exact ⟨rfl, rfl⟩
    | saved text =>
      obtain ⟨before, hbefore, rfl⟩ := Option.map_eq_some_iff.mp hheld
      cases text with
      | none => exact ⟨(ih hbefore).1, (ih hbefore).2⟩
      | some text => exact ⟨rfl, (ih hbefore).2⟩
    | closed => exact nomatch hheld

/-- The text of a document that the editor has open is the last of the last texts, and its version
the last that was carried. -/
theorem editorBuffer?_eq_some {buffer : EditorBuffer}
    (hopen : editorBuffer? events = some buffer) :
    (lastTexts? events).bind List.getLast? = some buffer.text ∧
      lastVersion? events = some buffer.version := by
  induction events using List.reverseRecOn generalizing buffer with
  | nil => exact nomatch hopen
  | append_singleton events event ih =>
    rw [editorBuffer?_concat] at hopen
    rw [lastTexts?_concat, lastVersion?_concat]
    cases event with
    | opened languageId text version =>
      cases hopen
      exact ⟨rfl, rfl⟩
    | changed version texts =>
      -- Without a text the change leaves the text alone, but the version is the new one.
      obtain ⟨before, hbefore, rfl⟩ := Option.map_eq_some_iff.mp hopen
      cases texts with
      | nil => exact ⟨(ih hbefore).1, rfl⟩
      | cons first rest =>
        refine ⟨?_, rfl⟩
        rw [foldl_replace]
        simp [DocumentEvent.texts?, List.getLast?_cons]
    | saved text =>
      obtain ⟨before, hbefore, rfl⟩ := Option.map_eq_some_iff.mp hopen
      cases text with
      | none => exact ⟨(ih hbefore).1, (ih hbefore).2⟩
      | some text => exact ⟨rfl, (ih hbefore).2⟩
    | closed => exact nomatch hopen

namespace Server

/-- The server has the same documents open as the editor. It holds the editor's text exactly if the
last texts that came for the document begin as they end, and the editor's version exactly if the
last version came with a text. -/
theorem mirrors_editor_iff (overrides : Settings.Patch) (file : Option Settings)
    (history : List Receipt) (url : Url) :
    let events := documentEvents url history
    let held := ((start overrides file).after history).documents.get? url
    let buffer := editorBuffer? events
    held.isSome = buffer.isSome ∧
    (held.map (·.content) = buffer.map (·.text) ↔
      buffer = none ∨
        (lastTexts? events).bind List.head? = (lastTexts? events).bind List.getLast?) ∧
    (held.map (·.version) = buffer.map (·.version) ↔
      buffer = none ∨ lastStoredVersion? events = lastVersion? events) := by
  intro events held buffer
  have hheld : held = documentAfter events := get?_after (start overrides file) history url
  have hopen : held.isSome = buffer.isSome := hheld ▸ isSome_documentAfter events
  refine ⟨hopen, ?_⟩
  cases hbuffer : buffer with
  | none =>
    have hnone : held = none := by simpa [hbuffer] using hopen
    simp [hnone]
  | some edited =>
    obtain ⟨document, hdocument⟩ := Option.isSome_iff_exists.mp (hopen.trans (by simp [hbuffer]))
    -- Both documents are read off the same last texts and versions, each in its own way.
    obtain ⟨hfirst, hstored⟩ := documentAfter_eq_some events (hheld.symm.trans hdocument)
    obtain ⟨hlast, hversion⟩ := editorBuffer?_eq_some events hbuffer
    simp [hdocument, hfirst, hstored, hlast, hversion]

/-- A change with two texts leaves the first with the server and the last with the editor, and a
change without texts leaves the earlier version with the server. -/
theorem two_texts_not_mirrored :
    let url : Url := ⟨"file", some ⟨"", "", none⟩, .segments ["a.z"], none, none⟩
    let world : World := ⟨.empty, [], []⟩
    let history : List Receipt := [
      ⟨.didOpen ⟨url, "z", 1, "old"⟩, world⟩,
      ⟨.didChange url 2 ["first", "last"], world⟩,
      ⟨.didChange url 3 [], world⟩]
    ((start {} none).after history).documents.get? url = some ⟨"first", 2, "z", true⟩ ∧
      editorBuffer? (documentEvents url history) = some ⟨"last", 3⟩ := by
  intro url world history
  have hevents : documentEvents url history =
      [.opened "z" "old" 1, .changed 2 ["first", "last"], .changed 3 []] := by
    simp [documentEvents, history, Rpc.Call.event?]
  constructor
  · rw [get?_after, hevents]
    rfl
  · rw [hevents]
    rfl

end Server

end EditorBridge
