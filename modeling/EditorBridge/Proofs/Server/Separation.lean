import EditorBridge.Proofs.Compile.Pool
import EditorBridge.Proofs.Documents.Store
import EditorBridge.Proofs.Settings.Precedence

/-!
# Documents do not interfere

What is seen of a document in a run depends only on the calls about that document and on those that
set settings. All other calls may be left out, added or replaced: no hover, no state of the document
and no entry that a trigger on it leads to is any different.

## Main definitions

* `Rpc.Call.concerns`, `Receipt.concerns`: the calls that a document may depend on.
* `Observation`: what is seen of a document by a call: its answer, what it starts and reports, and
  the document after it.
* `Server.observe`, `Server.observations`: what is seen of a document by a call, and by those calls
  of a run that concern it.
* `Server.AgreeAt`: two servers that cannot be told apart by calls that concern a document.

## Main results

* `AgreeAt.received`: a call keeps two servers in agreement.
* `agreeAt_received`: a call that does not concern a document leaves a server in agreement with
  itself.
* `AgreeAt.observe_eq`: servers in agreement show the same by a call.
* `AgreeAt.observations_filter`: other calls may be left out of a run.
* `observations_eq`: runs with the same calls that concern a document show the same of it.
-/

namespace EditorBridge

open Compile (Invocation Outcome Task)

/-! ## What concerns a document -/

/-- The call is about the document at an address: the document is opened, changed, saved, closed or
asked about, or the compile command names it. -/
def Rpc.Call.isAbout (url : Url) : Rpc.Call → Bool
  | .didOpen document => url.text == document.url.text
  | .didChange target _ _ | .didSave target _ | .didClose target | .hover target _ _ =>
    url.text == target.text
  | .executeCommand command arguments =>
    command == Server.compileCommand && (Server.argumentUrl? arguments).any (url.text == ·.text)
  | _ => false

/-- The call may set settings. -/
def Rpc.Call.mayConfigure : Rpc.Call → Bool
  | .begin _ _ | .didChangeConfiguration _ => true
  | _ => false

/-- What is seen of the document at an address may depend on the call. -/
def Rpc.Call.concerns (url : Url) (call : Rpc.Call) : Bool :=
  call.isAbout url || call.mayConfigure

/-- What is seen of the document at an address may depend on the call that was received. -/
def Receipt.concerns (url : Url) (receipt : Receipt) : Bool :=
  receipt.call.concerns url

/-- What a server holds of a document, and how triggers see it. -/
structure DocumentView where
  /-- The document, if it is open. -/
  document : Option OpenDocument
  /-- The document as triggers see it, if it is stored in a file. -/
  source : Option Source
  /-- Whether it is open and changed. -/
  dirty : Bool
deriving DecidableEq, Repr

/-- What is seen of a document when a call has been handled. -/
structure Observation where
  /-- The answer to the call. -/
  answer : Except Rpc.Refusal Json
  /-- The compiles that the call has started. -/
  started : List Task
  /-- What the call and its compiles report, by how programs end. -/
  reported : (Invocation → Outcome) → Journal
  /-- The document after the call. -/
  view : DocumentView

namespace Server

/-- The document at an address. -/
def view (server : Server) (url : Url) : DocumentView :=
  ⟨server.documents.get? url, server.documents.source? url, server.documents.isDirty url⟩

/-- What is seen of the document at an address by a call. -/
def observe (server : Server) (url : Url) (receipt : Receipt) : Observation :=
  let handled := (Rpc.handle receipt.call).run receipt.world server
  { answer := handled.answer
    started := handled.started
    reported := fun ends =>
      handled.journal ++ handled.started.flatMap fun task => (task.alone ends).entries
    view := (server.received receipt).view url }

/-- What is seen of the document at an address by the calls of a run that concern it. -/
def observations (url : Url) : Server → List Receipt → List Observation
  | _, [] => []
  | server, receipt :: rest =>
    if receipt.concerns url then
      server.observe url receipt :: observations url (server.received receipt) rest
    else observations url (server.received receipt) rest

/-- Two servers cannot be told apart by calls that concern the document at an address: they hold the
same document there and have the same settings. -/
structure AgreeAt (url : Url) (server other : Server) : Prop where
  layers_eq : server.layers = other.layers
  pinned_eq : server.pinned = other.pinned
  document_eq : server.documents.get? url = other.documents.get? url

namespace AgreeAt

variable {url target : Url} {server other : Server}

theorem refl (url : Url) (server : Server) : AgreeAt url server server := ⟨rfl, rfl, rfl⟩

theorem symm (hagree : AgreeAt url server other) : AgreeAt url other server :=
  ⟨hagree.layers_eq.symm, hagree.pinned_eq.symm, hagree.document_eq.symm⟩

theorem trans {third : Server} (hagree : AgreeAt url server other)
    (hagree' : AgreeAt url other third) : AgreeAt url server third :=
  ⟨hagree.layers_eq.trans hagree'.layers_eq, hagree.pinned_eq.trans hagree'.pinned_eq,
    hagree.document_eq.trans hagree'.document_eq⟩

/-! ### What is the same -/

theorem settings_eq (hagree : AgreeAt url server other) : server.settings = other.settings := by
  rw [settings, settings, hagree.layers_eq]

/-- An address is known by its text only. -/
theorem get?_eq (hagree : AgreeAt url server other) (htext : url.text = target.text) :
    server.documents.get? target = other.documents.get? target := by
  have hdocument := hagree.document_eq
  rwa [Documents.get?, Documents.get?, htext] at hdocument

theorem content?_eq (hagree : AgreeAt url server other) (htext : url.text = target.text) :
    server.documents.content? target = other.documents.content? target := by
  rw [Documents.content?, Documents.content?, hagree.get?_eq htext]

theorem source?_eq (hagree : AgreeAt url server other) (htext : url.text = target.text) :
    server.documents.source? target = other.documents.source? target := by
  rw [Documents.source?, Documents.source?, hagree.get?_eq htext]

theorem isDirty_eq (hagree : AgreeAt url server other) (htext : url.text = target.text) :
    server.documents.isDirty target = other.documents.isDirty target := by
  rw [Documents.isDirty, Documents.isDirty, hagree.get?_eq htext]

theorem isOpen_eq (hagree : AgreeAt url server other) (htext : url.text = target.text) :
    server.documents.isOpen target = other.documents.isOpen target := by
  rw [Documents.isOpen, Documents.isOpen, hagree.get?_eq htext]

theorem notices_eq (hagree : AgreeAt url server other) (htext : url.text = target.text) :
    server.notices target = other.notices target := by
  rw [notices, notices, hagree.source?_eq htext, hagree.isDirty_eq htext]

theorem view_eq (hagree : AgreeAt url server other) : server.view url = other.view url := by
  rw [view, view, hagree.document_eq, hagree.source?_eq rfl, hagree.isDirty_eq rfl]

/-! ### What calls do -/

/-- A call keeps two servers in agreement. -/
theorem received (hagree : AgreeAt url server other) (receipt : Receipt) :
    AgreeAt url (server.received receipt) (other.received receipt) where
  layers_eq := by rw [layers_received, layers_received, hagree.layers_eq, hagree.pinned_eq]
  pinned_eq := by rw [pinned_received, pinned_received, hagree.pinned_eq]
  document_eq := by rw [get?_received, get?_received, hagree.document_eq]

end AgreeAt

/-- A call that does not concern the document leaves no trace that one could notice that does. -/
theorem agreeAt_received {url : Url} {receipt : Receipt} (server : Server)
    (hother : receipt.concerns url = false) :
    AgreeAt url (server.received receipt) server := by
  obtain ⟨call, world⟩ := receipt
  obtain ⟨habout, hconfigure⟩ : call.isAbout url = false ∧ call.mayConfigure = false := by
    simpa [Receipt.concerns, Rpc.Call.concerns] using hother
  -- Such a call says nothing about settings, and it is no event of the document.
  have hpushed : Receipt.pushed? ⟨call, world⟩ = none := by
    cases call <;> first | rfl | exact nomatch hconfigure
  have hloaded : Receipt.loaded? ⟨call, world⟩ = none := by
    cases call <;> first | rfl | exact nomatch hconfigure
  have hevent : call.event? url = none := by
    cases call <;> simp_all [Rpc.Call.isAbout, Rpc.Call.event?]
  constructor
  · rw [layers_received, hpushed, hloaded]
    simp
  · exact pinned_received server _
  · rw [get?_received, hevent]
    rfl

/-- Servers in agreement do the same on a call that concerns the document. -/
theorem AgreeAt.run_eq {url : Url} {server other : Server} {receipt : Receipt}
    (hagree : AgreeAt url server other) (hconcerns : receipt.concerns url = true) :
    let first := (Rpc.handle receipt.call).run receipt.world server
    let second := (Rpc.handle receipt.call).run receipt.world other
    first.answer = second.answer ∧ first.effects = second.effects ∧
      first.started = second.started := by
  obtain ⟨call, world⟩ := receipt
  have habout : call.isAbout url = true ∨ call.mayConfigure = true := by
    simpa [Receipt.concerns, Rpc.Call.concerns] using hconcerns
  -- Only the first four look at the server before they answer, and each at its own document.
  cases call with
  | didSave target text =>
    have htext : url.text = target.text := by
      simpa [Rpc.Call.isAbout, Rpc.Call.mayConfigure] using habout
    simp only [Rpc.handle, didSave, Handler.run_bind, Handler.run_update, Handler.run_state,
      mapDocuments, Documents.source?_saved, hagree.source?_eq htext]
    cases other.documents.source? target with
    | none => simp
    | some source => simp [settings, hagree.layers_eq]
  | executeCommand command arguments =>
    obtain ⟨rfl, target, hurl, htext⟩ : command = compileCommand ∧
        ∃ target, argumentUrl? arguments = some target ∧ url.text = target.text := by
      simpa [Rpc.Call.isAbout, Rpc.Call.mayConfigure, Option.any_eq_true] using habout
    simp [Rpc.handle, run_executeCommand_compileCommand, hurl, hagree.source?_eq htext,
      hagree.notices_eq htext, hagree.settings_eq]
  | hover target line column =>
    have htext : url.text = target.text := by
      simpa [Rpc.Call.isAbout, Rpc.Call.mayConfigure] using habout
    simp [Rpc.handle, hover, hagree.content?_eq htext]
  | didChange target version texts =>
    have htext : url.text = target.text := by
      simpa [Rpc.Call.isAbout, Rpc.Call.mayConfigure] using habout
    cases hopen : other.documents.isOpen target <;> cases htexts : texts.head? <;>
      simp [Rpc.handle, didChange, hagree.isOpen_eq htext, hopen, htexts]
  | begin root options => cases options <;> simp [Rpc.handle, begin]
  | didOpen document => simp [Rpc.handle, didOpen]
  | didClose target => simp [Rpc.handle, didClose]
  | didChangeConfiguration pushed => simp [Rpc.handle, didChangeConfiguration]
  | ready | shutdown | leave | unsupported => exact ⟨rfl, rfl, rfl⟩

/-- Servers in agreement show the same of the document on a call that concerns it. -/
theorem AgreeAt.observe_eq {url : Url} {server other : Server} {receipt : Receipt}
    (hagree : AgreeAt url server other) (hconcerns : receipt.concerns url = true) :
    server.observe url receipt = other.observe url receipt := by
  obtain ⟨hanswer, heffects, hstarted⟩ := hagree.run_eq hconcerns
  simp only [observe, Handled.journal, hanswer, heffects, hstarted,
    (hagree.received receipt).view_eq]

/-! ## Runs -/

/-- Leaving out the calls that do not concern the document leaves a server in agreement. -/
theorem AgreeAt.after_filter {url : Url} {server other : Server} (hagree : AgreeAt url server other)
    (history : List Receipt) :
    AgreeAt url (server.after history)
      (other.after (history.filter (·.concerns url))) := by
  induction history generalizing server other with
  | nil => exact hagree
  | cons receipt rest ih =>
    cases hconcerns : receipt.concerns url with
    | true =>
      rw [List.filter_cons_of_pos hconcerns]
      exact ih (hagree.received receipt)
    | false =>
      rw [List.filter_cons_of_neg (by simp [hconcerns])]
      exact ih ((agreeAt_received server hconcerns).trans hagree)

/-- Leaving out the calls that do not concern the document changes nothing that is seen of it. -/
theorem AgreeAt.observations_filter {url : Url} {server other : Server}
    (hagree : AgreeAt url server other) (history : List Receipt) :
    observations url server history =
      observations url other (history.filter (·.concerns url)) := by
  -- Where a call is left out, only one of the servers moves, and the two still agree.
  induction history generalizing server other with
  | nil => rfl
  | cons receipt rest ih =>
    cases hconcerns : receipt.concerns url with
    | true =>
      rw [List.filter_cons_of_pos hconcerns, observations, observations, if_pos hconcerns,
        if_pos hconcerns, hagree.observe_eq hconcerns, ih (hagree.received receipt)]
    | false =>
      rw [List.filter_cons_of_neg (by simp [hconcerns]), observations,
        if_neg (by simp [hconcerns])]
      exact ih ((agreeAt_received server hconcerns).trans hagree)

/-- Whatever else is going on, runs with the same calls that concern a document show the same of it:
every such call has the same answer, starts the same compiles and, with the same programs, reports
the same, and it leaves the same document. Nothing that comes afterwards can tell the runs apart. -/
theorem observations_eq {url : Url} {first second : List Receipt} (server : Server)
    (hsame : first.filter (·.concerns url) = second.filter (·.concerns url)) :
    observations url server first = observations url server second ∧
    (server.after first).view url = (server.after second).view url ∧
    (server.after first).settings = (server.after second).settings ∧
    ∀ receipt : Receipt, receipt.concerns url = true →
      (server.after first).observe url receipt = (server.after second).observe url receipt := by
  have hagree : AgreeAt url server server := .refl url server
  have hafter : AgreeAt url (server.after first) (server.after second) := by
    refine (hagree.after_filter first).trans ?_
    rw [hsame]
    exact (hagree.after_filter second).symm
  refine ⟨?_, hafter.view_eq, hafter.settings_eq, fun receipt => hafter.observe_eq⟩
  rw [hagree.observations_filter first, hsame, ← hagree.observations_filter second]

/-- Another document is opened and closed, and a third one is compiled, between the calls for a
document: it is compiled all the same. -/
theorem observations_eq_among_others :
    let address := fun name => (⟨"file", some ⟨"", "", none⟩, .segments [name], none, none⟩ : Url)
    let url := address "a.z"
    let world : World := ⟨.empty, [], []⟩
    let opened : Receipt := ⟨.didOpen ⟨url, "z", 1, "old"⟩, world⟩
    let changed : Receipt := ⟨.didChange url 2 ["new"], world⟩
    let command : Receipt := ⟨.executeCommand compileCommand [.string "file:///a.z"], world⟩
    let others : List Receipt := [
      ⟨.didOpen ⟨address "b.z", "z", 1, ""⟩, world⟩,
      ⟨.executeCommand compileCommand [.string "file:///c.z"], world⟩,
      ⟨.didClose (address "b.z"), world⟩]
    let first := [opened, changed, command]
    let second := opened :: changed :: others ++ [command]
    let server := start {} none
    first.filter (·.concerns url) = second.filter (·.concerns url) ∧
    first.length ≠ second.length ∧
    observations url server first = observations url server second ∧
    ((observations url server second).map fun observation =>
        (observation.started.length, observation.view.dirty)) =
      [(0, false), (0, true), (1, true)] := by
  intro address url world opened changed command others first second server
  have hopened : opened.concerns url = true := by decide +kernel
  have hchanged : changed.concerns url = true := by decide +kernel
  have hcommand : command.concerns url = true := by decide +kernel
  have hothers : others.filter (·.concerns url) = [] := by
    have hnone : others.all (!·.concerns url) = true := by decide +kernel
    simpa [List.filter_eq_nil_iff] using hnone
  have hsame : first.filter (·.concerns url) = second.filter (·.concerns url) := by
    simp only [first, second, List.filter_cons, List.filter_append, List.filter_nil,
      List.cons_append, List.nil_append, hopened, hchanged, hcommand, hothers, if_true]
  have hequal := (observations_eq server hsame).1
  refine ⟨hsame, by decide, hequal, ?_⟩
  rw [← hequal]
  decide +kernel

end Server

end EditorBridge
