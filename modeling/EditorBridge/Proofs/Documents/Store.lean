import EditorBridge.Proofs.Server.Handling

/-!
# The store of open documents, one address at a time

What is held at an address after an operation on the store depends only on what was held there
before. So the store is followed one address at a time: of a history of calls only the events of
the document at that address count.

## Main definitions

* `DocumentEvent`: what can happen to one document, and what the store makes of it.
* `Rpc.Call.event?`, `documentEvents`: what a call and a history mean for the document at an
  address.

## Main results

* `Documents.get?_opened`, `get?_updated`, `get?_saved`, `get?_closed`: what is held at an address
  after an operation on the store.
* `Server.get?_received`, `get?_after`: what is held at an address after a call and after a history.
-/

namespace EditorBridge

namespace Documents

variable (documents : Documents) (url target : Url)

/-- The first document of the store is the one at its own address. -/
theorem get?_cons (address : String) (document : OpenDocument)
    (entries : List (String × OpenDocument)) :
    get? ⟨(address, document) :: entries⟩ url =
      if url.text = address then some document else get? ⟨entries⟩ url := by
  by_cases haddress : url.text = address
  · simp [get?, haddress]
  · simp [get?, List.lookup_cons, haddress, beq_eq_false_iff_ne.mpr haddress]

/-- Closing forgets the document at the address and no other. -/
@[simp]
theorem get?_closed :
    (documents.closed target).get? url =
      if url.text = target.text then none else documents.get? url := by
  obtain ⟨entries⟩ := documents
  induction entries with
  | nil => simp [closed, get?]
  | cons entry rest ih =>
    obtain ⟨address, document⟩ := entry
    by_cases haddress : address = target.text
    · -- The document is the one that is closed, so only later ones can be found.
      have hdrop : closed ⟨(address, document) :: rest⟩ target = closed ⟨rest⟩ target := by
        simp [closed, haddress]
      rw [hdrop, ih, get?_cons, haddress]
      split <;> rfl
    · have hkeep : closed ⟨(address, document) :: rest⟩ target =
          ⟨(address, document) :: (closed ⟨rest⟩ target).entries⟩ := by
        simp [closed, haddress]
      rw [hkeep, get?_cons, get?_cons, ih]
      by_cases hurl : url.text = address
      · simp [hurl, haddress]
      · simp [hurl]

/-- Opening replaces what is held at the address and nothing else. -/
@[simp]
theorem get?_opened (languageId content : String) (version : Int) :
    (documents.opened target languageId content version).get? url =
      if url.text = target.text then some ⟨content, version, languageId, false⟩
      else documents.get? url := by
  rw [opened, get?_cons, get?_closed]
  split <;> rfl

/-- A change reaches the document at the address, if it is open, and no other. -/
@[simp]
theorem get?_modify (change : OpenDocument → OpenDocument) :
    (documents.modify target change).get? url =
      if url.text = target.text then (documents.get? url).map change else documents.get? url := by
  obtain ⟨entries⟩ := documents
  induction entries with
  | nil => simp [modify, get?]
  | cons entry rest ih =>
    obtain ⟨address, document⟩ := entry
    have hmodify : modify ⟨(address, document) :: rest⟩ target change =
        ⟨(address, if address = target.text then change document else document) ::
          (modify ⟨rest⟩ target change).entries⟩ := by
      simp only [modify, List.map_cons]
      split <;> rfl
    rw [hmodify, get?_cons, get?_cons, ih]
    by_cases hurl : url.text = address
    · subst hurl
      simp only [↓reduceIte, Option.map_some]
      split <;> rfl
    · simp [hurl]

@[simp]
theorem get?_updated (content : String) (version : Int) :
    (documents.updated target content version).get? url =
      if url.text = target.text then
        (documents.get? url).map fun document => { document with content, version, dirty := true }
      else documents.get? url :=
  documents.get?_modify url target _

@[simp]
theorem get?_saved (content : Option String) :
    (documents.saved target content).get? url =
      if url.text = target.text then
        (documents.get? url).map fun document =>
          { document with content := content.getD document.content, dirty := false }
      else documents.get? url :=
  documents.get?_modify url target _

/-- For triggers a saved document is the same as before. -/
theorem source?_saved (content : Option String) :
    (documents.saved url content).source? url = documents.source? url := by
  rw [source?, source?, get?_saved, if_pos rfl, Option.map_map]
  rfl

end Documents

/-! ## The events of one document -/

/-- What can happen to one document. -/
inductive DocumentEvent where
  /-- It is opened. -/
  | opened (languageId text : String) (version : Int)
  /-- Its text is replaced by each of some texts in turn. -/
  | changed (version : Int) (texts : List String)
  /-- It is saved, and the saved text may be known. -/
  | saved (text : Option String)
  /-- It is closed. -/
  | closed
deriving DecidableEq, Repr

/-- What the store makes of an event. -/
def DocumentEvent.apply : DocumentEvent → Option OpenDocument → Option OpenDocument
  | .opened languageId content version, _ => some ⟨content, version, languageId, false⟩
  | .changed version texts, held =>
    held.map fun document =>
      texts.head?.elim document fun content => { document with content, version, dirty := true }
  | .saved text, held =>
    held.map fun document => { document with content := text.getD document.content, dirty := false }
  | .closed, _ => none

/-- What a call means for the document at an address. -/
def Rpc.Call.event? (url : Url) : Rpc.Call → Option DocumentEvent
  | .didOpen opened =>
    if url.text = opened.url.text then
      some (.opened opened.languageId opened.text opened.version)
    else none
  | .didChange target version texts =>
    if url.text = target.text then some (.changed version texts) else none
  | .didSave target text => if url.text = target.text then some (.saved text) else none
  | .didClose target => if url.text = target.text then some .closed else none
  | _ => none

/-- The events of the document at an address, in a history of calls. -/
def documentEvents (url : Url) (history : List Receipt) : List DocumentEvent :=
  history.filterMap (·.call.event? url)

namespace Server

/-- Settings are pushed without a look at the documents. -/
theorem documents_pushSettings (server : Server) (pushed : Json) :
    (server.pushSettings pushed).documents = server.documents := by
  unfold pushSettings
  split <;> rfl

/-- What is held at an address after a call depends only on what was held there before. -/
theorem get?_received (server : Server) (receipt : Receipt) (url : Url) :
    (server.received receipt).documents.get? url =
      (receipt.call.event? url).elim (server.documents.get? url)
        (·.apply (server.documents.get? url)) := by
  obtain ⟨call, world⟩ := receipt
  cases call with
  | begin root options =>
    simp only [received_begin, discover]
    cases options <;> simp only [Option.elim, documents_pushSettings] <;> split <;> rfl
  | didChangeConfiguration pushed =>
    rw [received_didChangeConfiguration, documents_pushSettings]
    rfl
  | didOpen opened =>
    rw [received_didOpen, mapDocuments, Documents.get?_opened, Rpc.Call.event?]
    split <;> rfl
  | didChange target version texts =>
    rw [received_didChange, Rpc.Call.event?]
    by_cases hurl : url.text = target.text
    -- The server asks first whether the document is open; where none is held no event changes that.
    · have hopen : server.documents.isOpen target = (server.documents.get? url).isSome := by
        rw [Documents.isOpen, Documents.get?, Documents.get?, hurl]
      rw [if_pos hurl, hopen]
      cases hheld : server.documents.get? url <;> cases htexts : texts.head? <;>
        simp [mapDocuments, DocumentEvent.apply, hurl, hheld, htexts]
    · rw [if_neg hurl]
      split <;> simp [mapDocuments, hurl]
  | didSave target text =>
    rw [received_didSave, mapDocuments, Documents.get?_saved, Rpc.Call.event?]
    split <;> rfl
  | didClose target =>
    rw [received_didClose, mapDocuments, Documents.get?_closed, Rpc.Call.event?]
    split <;> rfl
  | executeCommand command arguments =>
    rw [received_executeCommand]
    rfl
  | hover target line column =>
    rw [received_hover]
    rfl
  | ready | shutdown | leave | unsupported => rfl

/-- What is held at an address after a history depends only on the events of that document. -/
theorem get?_after (server : Server) (history : List Receipt) (url : Url) :
    (server.after history).documents.get? url =
      (documentEvents url history).foldl (fun held event => event.apply held)
        (server.documents.get? url) := by
  induction history generalizing server with
  | nil => rfl
  | cons receipt rest ih =>
    -- A call is one event of the document, or none.
    have hcons : documentEvents url (receipt :: rest) =
        (receipt.call.event? url).toList ++ documentEvents url rest := by
      rw [documentEvents, List.filterMap_cons]
      cases receipt.call.event? url <;> rfl
    rw [after, List.foldl_cons, ← after, ih, get?_received, hcons, List.foldl_append]
    cases receipt.call.event? url <;> rfl

end Server

end EditorBridge
