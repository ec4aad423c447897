import EditorBridge.Proofs.Documents.EditorText
import Mathlib.Data.Finset.Card

/-!
# The store as the history of each document

The store of open documents is called with one document at a time. What it holds of a document can
be read off the calls about that document alone, and of these only off the calls from the last
opening on: each field is what the last call says that says something about it.

## Main definitions

* `Call`, `performed`, `after`: the calls of the store, and the store after a history of them.
* `callsOn`: the calls of a history that are about the document at an address.
* `IsSession`: the last opening of a document and the calls since.
* `Leaves`: the document that a session leaves.

## Main results

* `get?_performed`, `get?_after`: what is held at an address after a call and after a history.
* `addresses_performed`: the addresses of the open documents after a call.
* `modify_of_not_open`, `closed_of_not_open`: nothing happens to documents that are not open.
* `after_reflects_history`: the store, read off its history.
-/

namespace EditorBridge

/-- What a history says last is said by some event, and no later one says anything. -/
theorem lastSaid?_eq_some_iff {ε α : Type} {view : ε → Option α} {history : List ε} {value : α} :
    lastSaid? view history = some value ↔
      ∃ before event since, history = before ++ event :: since ∧ view event = some value ∧
        ∀ later ∈ since, view later = none := by
  rw [lastSaid?, List.findSome?_eq_some_iff]
  constructor
  · rintro ⟨since, event, before, hhistory, hevent, hsince⟩
    refine ⟨before.reverse, event, since.reverse, ?_, hevent, fun later hlater =>
      hsince later (List.mem_reverse.mp hlater)⟩
    rw [← List.reverse_inj, hhistory]
    simp
  · rintro ⟨before, event, since, rfl, hevent, hsince⟩
    exact ⟨since.reverse, event, before.reverse, by simp, hevent, fun later hlater =>
      hsince later (List.mem_reverse.mp hlater)⟩

namespace Documents

/-- A call of the store about one document. -/
inductive Call where
  /-- The document is opened. -/
  | opened (languageId content : String) (version : Int)
  /-- Its text is replaced. -/
  | updated (content : String) (version : Int)
  /-- It is saved, and the saved text may be known. -/
  | saved (content : Option String)
  /-- It is closed. -/
  | closed
deriving DecidableEq, Repr

namespace Call

/-- What the call says about whether the document is open. -/
def opens? : Call → Option Bool
  | .opened _ _ _ => some true
  | .closed => some false
  | .updated _ _ | .saved _ => none

/-- The text that the call carries. -/
def text? : Call → Option String
  | .opened _ content _ | .updated content _ => some content
  | .saved content => content
  | .closed => none

/-- The version that the call carries. -/
def version? : Call → Option Int
  | .opened _ _ version | .updated _ version => some version
  | .saved _ | .closed => none

/-- The language that the call announces. -/
def languageId? : Call → Option String
  | .opened languageId _ _ => some languageId
  | .updated _ _ | .saved _ | .closed => none

/-- What the call says about whether the text in the editor differs from the saved one. -/
def edits? : Call → Option Bool
  | .updated _ _ => some true
  | .opened _ _ _ | .saved _ => some false
  | .closed => none

/-- The event of the document that the call is about. -/
def event : Call → DocumentEvent
  | .opened languageId content version => .opened languageId content version
  | .updated content version => .changed version [content]
  | .saved content => .saved content
  | .closed => .closed

end Call

/-- The store after a call about the document at an address. -/
def performed (documents : Documents) (url : Url) : Call → Documents
  | .opened languageId content version => documents.opened url languageId content version
  | .updated content version => documents.updated url content version
  | .saved content => documents.saved url content
  | .closed => documents.closed url

/-- The store after a history of calls. -/
def after (history : List (Url × Call)) : Documents :=
  history.foldl (fun documents call => documents.performed call.1 call.2) empty

/-- The calls of a history that are about the document at an address. -/
def callsOn (address : String) (history : List (Url × Call)) : List Call :=
  history.filterMap fun call => if address = call.1.text then some call.2 else none

/-- The last opening of a document and the calls since, none of which opens or closes it. -/
structure IsSession (calls : List Call) (opening : Call) (since : List Call) : Prop where
  calls_eq : ∃ before, calls = before ++ opening :: since
  opens : opening.opens? = some true
  stays : ∀ call ∈ since, call.opens? = none

/-- The document that is left by an opening and the calls since. -/
structure Leaves (opening : Call) (since : List Call) (document : OpenDocument) : Prop where
  content_eq : lastSaid? Call.text? (opening :: since) = some document.content
  version_eq : lastSaid? Call.version? (opening :: since) = some document.version
  languageId_eq : opening.languageId? = some document.languageId
  dirty_iff : document.dirty = true ↔ lastSaid? Call.edits? (opening :: since) = some true

/-- The addresses of the open documents. -/
def addresses (documents : Documents) : List String :=
  documents.entries.map (·.1)

/-- The addresses of a history whose documents were opened last and not closed. -/
def openAddresses (history : List (Url × Call)) : Finset String :=
  (history.map (·.1.text)).toFinset.filter fun address =>
    lastSaid? Call.opens? (callsOn address history) = some true

variable {documents : Documents} {url target : Url} {history : List (Url × Call)}
  {calls since : List Call} {opening call : Call}

/-! ## What is held at an address -/

/-- A call changes what is held at its own address, and nothing else. -/
theorem get?_performed (documents : Documents) (url target : Url) (call : Call) :
    (documents.performed target call).get? url =
      if url.text = target.text then call.event.apply (documents.get? url)
      else documents.get? url := by
  cases call with
  | opened languageId content version => exact documents.get?_opened url target _ _ _
  | updated content version => exact documents.get?_updated url target _ _
  | saved content => exact documents.get?_saved url target _
  | closed => exact documents.get?_closed url target

theorem after_concat (history : List (Url × Call)) (url : Url) (call : Call) :
    after (history ++ [(url, call)]) = (after history).performed url call := by
  simp [after]

/-- What is held at an address depends only on the calls about it. -/
theorem get?_after (history : List (Url × Call)) (url : Url) :
    (after history).get? url = documentAfter ((callsOn url.text history).map Call.event) := by
  induction history using List.reverseRecOn with
  | nil => rfl
  | append_singleton history last ih =>
    obtain ⟨target, call⟩ := last
    rw [after_concat, get?_performed, ih]
    -- A call about another document is none of those at the address, and leaves what is held there.
    by_cases hurl : url.text = target.text
    · simp [callsOn, hurl]
    · simp [callsOn, hurl]

/-- A document is held exactly if it was opened last, and not closed. -/
theorem isSome_documentAfter_events (calls : List Call) :
    (documentAfter (calls.map Call.event)).isSome = true ↔
      lastSaid? Call.opens? calls = some true := by
  induction calls using List.reverseRecOn with
  | nil => simp [documentAfter]
  | append_singleton calls call ih =>
    rw [List.map_append, List.map_singleton, documentAfter_concat, lastSaid?_concat]
    cases call <;> simp [Call.event, Call.opens?, DocumentEvent.apply, ih]

/-- A further call that neither opens nor closes the document changes what the session leaves. -/
theorem Leaves.exists_next {document : OpenDocument} (hleaves : Leaves opening since document)
    (hstays : call.opens? = none) :
    ∃ next, call.event.apply (some document) = some next ∧
      Leaves opening (since ++ [call]) next := by
  obtain ⟨hcontent, hversion, hlanguage, hdirty⟩ := hleaves
  cases call with
  | opened languageId content version => exact nomatch hstays
  | closed => exact nomatch hstays
  | updated content version =>
    refine ⟨_, rfl, ?_, ?_, hlanguage, ?_⟩ <;> rw [← List.cons_append, lastSaid?_concat]
    · rfl
    · rfl
    · exact iff_of_true rfl rfl
  | saved content =>
    refine ⟨_, rfl, ?_, ?_, hlanguage, ?_⟩ <;> rw [← List.cons_append, lastSaid?_concat]
    · cases content with
      | none => exact hcontent
      | some text => rfl
    · exact hversion
    · exact iff_of_false Bool.false_ne_true (by simp [Call.edits?])

/-- A session leaves one document. -/
theorem Leaves.eq {document other : OpenDocument} (hleaves : Leaves opening since document)
    (hother : Leaves opening since other) : document = other := by
  obtain ⟨hcontent, hversion, hlanguage, hdirty⟩ := hleaves
  rw [hother.content_eq, Option.some.injEq] at hcontent
  rw [hother.version_eq, Option.some.injEq] at hversion
  rw [hother.languageId_eq, Option.some.injEq] at hlanguage
  rw [← hother.dirty_iff] at hdirty
  cases document
  cases other
  simp_all

/-- What is held after a session is the document that the session leaves. -/
theorem IsSession.exists_leaves (hsession : IsSession calls opening since) :
    ∃ document, documentAfter (calls.map Call.event) = some document ∧
      Leaves opening since document := by
  obtain ⟨⟨before, rfl⟩, hopens, hstays⟩ := hsession
  -- The opening forgets what was held before, and each later call leaves the next document.
  induction since using List.reverseRecOn with
  | nil =>
    rw [List.map_append, List.map_singleton, documentAfter_concat]
    cases opening with
    | opened languageId content version =>
      have hunsaved : lastSaid? Call.edits? [.opened languageId content version] ≠ some true := by
        simp [lastSaid?, Call.edits?]
      exact ⟨_, rfl, rfl, rfl, rfl, iff_of_false Bool.false_ne_true hunsaved⟩
    | updated content version | saved content | closed => cases hopens
  | append_singleton since call ih =>
    obtain ⟨hsince, hcall⟩ := List.forall_mem_append.mp hstays
    obtain ⟨document, hheld, hleaves⟩ := ih hsince
    obtain ⟨next, hnext, hleaves⟩ := hleaves.exists_next (hcall call (List.mem_singleton_self _))
    refine ⟨next, ?_, hleaves⟩
    rw [← List.cons_append, ← List.append_assoc, List.map_append, List.map_singleton,
      documentAfter_concat, hheld, hnext]

/-- A document is open exactly if there is a session of it. -/
theorem exists_isSession_iff (calls : List Call) :
    (∃ opening since, IsSession calls opening since) ↔ lastSaid? Call.opens? calls = some true := by
  rw [lastSaid?_eq_some_iff]
  constructor
  · rintro ⟨opening, since, ⟨before, hcalls⟩, hopens, hstays⟩
    exact ⟨before, opening, since, hcalls, hopens, hstays⟩
  · rintro ⟨before, opening, since, hcalls, hopens, hstays⟩
    exact ⟨opening, since, ⟨before, hcalls⟩, hopens, hstays⟩

/-! ## Which documents are open -/

/-- A document is open exactly if its address is among those of the open documents. -/
theorem isOpen_iff_mem_addresses :
    documents.isOpen url = true ↔ url.text ∈ documents.addresses := by
  obtain ⟨entries⟩ := documents
  induction entries with
  | nil => simp [isOpen, get?, addresses]
  | cons entry rest ih =>
    obtain ⟨address, document⟩ := entry
    rw [isOpen] at ih ⊢
    rw [get?_cons]
    by_cases hurl : url.text = address
    · simp [addresses, hurl]
    · rw [if_neg hurl, ih]
      simp [addresses, hurl]

/-- A change does not change which documents are open. -/
theorem addresses_modify (documents : Documents) (url : Url)
    (change : OpenDocument → OpenDocument) :
    (documents.modify url change).addresses = documents.addresses := by
  rw [addresses, modify, List.map_map]
  refine List.map_congr_left fun entry _ => ?_
  dsimp only [Function.comp_apply]
  split <;> rfl

theorem addresses_closed (documents : Documents) (url : Url) :
    (documents.closed url).addresses = documents.addresses.filter (· != url.text) := by
  rw [addresses, addresses, closed, List.filter_map]
  rfl

/-- The addresses of the open documents after a call: that of an opened document stands in front,
and that of a closed one is gone. -/
theorem addresses_performed (documents : Documents) (url : Url) (call : Call) :
    (documents.performed url call).addresses =
      match call.opens? with
      | some true => url.text :: documents.addresses.filter (· != url.text)
      | some false => documents.addresses.filter (· != url.text)
      | none => documents.addresses := by
  cases call with
  | opened languageId content version =>
    exact congrArg (url.text :: ·) (documents.addresses_closed url)
  | updated content version => exact documents.addresses_modify url _
  | saved content => exact documents.addresses_modify url _
  | closed => exact documents.addresses_closed url

/-- Each document is open once. -/
theorem nodup_addresses_after (history : List (Url × Call)) :
    (after history).addresses.Nodup := by
  induction history using List.reverseRecOn with
  | nil => exact List.nodup_nil
  | append_singleton history last ih =>
    obtain ⟨url, call⟩ := last
    rw [after_concat, addresses_performed]
    split
    · exact List.nodup_cons.mpr ⟨by simp, ih.filter _⟩
    · exact ih.filter _
    · exact ih

/-- Only documents that a history names are open. -/
theorem exists_mem_of_mem_addresses_after {address : String}
    (haddress : address ∈ (after history).addresses) : ∃ call ∈ history, call.1.text = address := by
  induction history using List.reverseRecOn with
  | nil => exact nomatch haddress
  | append_singleton history last ih =>
    obtain ⟨url, call⟩ := last
    rw [after_concat, addresses_performed] at haddress
    -- Of the addresses after the call only that of an opened document can be new.
    have hcases : address = url.text ∨ address ∈ (after history).addresses := by
      split at haddress
      · exact (List.mem_cons.mp haddress).imp_right List.mem_of_mem_filter
      · exact .inr (List.mem_of_mem_filter haddress)
      · exact .inr haddress
    rcases hcases with rfl | hbefore
    · exact ⟨_, List.mem_append_right _ (List.mem_singleton_self _), rfl⟩
    · obtain ⟨earlier, hmem, htext⟩ := ih hbefore
      exact ⟨earlier, List.mem_append_left _ hmem, htext⟩

/-- No entry stands at the address of a document that is not open. -/
theorem ne_of_not_open (hopen : documents.isOpen url = false) :
    ∀ entry ∈ documents.entries, entry.1 ≠ url.text := by
  intro entry hentry heq
  have hmem : url.text ∈ documents.addresses := heq ▸ List.mem_map_of_mem hentry
  exact nomatch hopen.symm.trans (isOpen_iff_mem_addresses.mpr hmem)

/-- What is done to a document that is not open changes nothing. -/
theorem modify_of_not_open (hopen : documents.isOpen url = false)
    (change : OpenDocument → OpenDocument) : documents.modify url change = documents := by
  have hsame : documents.entries.map (fun entry =>
      if entry.1 = url.text then (entry.1, change entry.2) else entry) = documents.entries :=
    (List.map_congr_left fun entry hentry => if_neg (ne_of_not_open hopen entry hentry)).trans
      (List.map_id _)
  rw [modify, hsame]

theorem closed_of_not_open (hopen : documents.isOpen url = false) :
    documents.closed url = documents := by
  have hsame : documents.entries.filter (·.1 != url.text) = documents.entries :=
    List.filter_eq_self.mpr fun entry hentry => bne_iff_ne.mpr (ne_of_not_open hopen entry hentry)
  rw [closed, hsame]

/-! ## The store and its history -/

theorem isOpen_after_iff (history : List (Url × Call)) (url : Url) :
    (after history).isOpen url = true ↔
      lastSaid? Call.opens? (callsOn url.text history) = some true := by
  rw [isOpen, get?_after, isSome_documentAfter_events]

/-- As many documents are open as there are addresses that were opened last. -/
theorem count_after (history : List (Url × Call)) :
    (after history).count = (openAddresses history).card := by
  have hcard : (after history).count = (after history).addresses.toFinset.card := by
    -- Each entry has an address of its own, so entries can be counted by their addresses.
    rw [List.toFinset_card_of_nodup (nodup_addresses_after history), addresses, List.length_map,
      count]
  have hsame : (after history).addresses.toFinset = openAddresses history := by
    ext address
    rw [List.mem_toFinset, openAddresses, Finset.mem_filter, List.mem_toFinset]
    constructor
    · intro haddress
      obtain ⟨call, hcall, rfl⟩ := exists_mem_of_mem_addresses_after haddress
      exact ⟨List.mem_map_of_mem hcall,
        (isOpen_after_iff history call.1).mp (isOpen_iff_mem_addresses.mpr haddress)⟩
    · rintro ⟨hmem, hopens⟩
      obtain ⟨call, -, rfl⟩ := List.mem_map.mp hmem
      exact isOpen_iff_mem_addresses.mp ((isOpen_after_iff history call.1).mpr hopens)
  rw [hcard, hsame]

/-- A document is open exactly if the last call that opened or closed it opened it. What is then
held of it is read off the calls from that one on: the text that was carried last, the version that
was carried last, the language that was announced, and whether the text was changed since it was
last opened or saved. Triggers are told the language of open documents only. What is done to a
document that is not open changes nothing, and as many documents are open as there are addresses
that were opened last. -/
theorem after_reflects_history (history : List (Url × Call)) :
    (∀ url : Url,
      let calls := callsOn url.text history
      let documents := after history
      (documents.isOpen url = true ↔ lastSaid? Call.opens? calls = some true) ∧
      (documents.isOpen url = true ↔ ∃ opening since, IsSession calls opening since) ∧
      (∀ opening since, IsSession calls opening since → ∃ document,
        documents.get? url = some document ∧ Leaves opening since document ∧
        documents.source? url =
          url.filePath?.map fun path => ⟨path, some document.languageId⟩) ∧
      (documents.isOpen url = false →
        documents.get? url = none ∧
        documents.source? url = url.filePath?.map (fun path => ⟨path, none⟩) ∧
        (∀ content version, documents.updated url content version = documents) ∧
        (∀ content, documents.saved url content = documents) ∧
        documents.closed url = documents)) ∧
    (after history).count = (openAddresses history).card := by
  refine ⟨fun url => ?_, count_after history⟩
  intro calls documents
  have hopen := isOpen_after_iff history url
  refine ⟨hopen, hopen.trans (exists_isSession_iff calls).symm, fun opening since hsession => ?_,
    fun hclosed => ?_⟩
  · obtain ⟨document, hheld, hleaves⟩ := hsession.exists_leaves
    rw [← get?_after] at hheld
    refine ⟨document, hheld, hleaves, ?_⟩
    rw [source?, hheld, Option.map_some]
  · have hnone : documents.get? url = none := by simpa [isOpen] using hclosed
    refine ⟨hnone, ?_, fun content version => modify_of_not_open hclosed _,
      fun content => modify_of_not_open hclosed _, closed_of_not_open hclosed⟩
    rw [source?, hnone, Option.map_none]

/-- A document that was closed and opened again in another language keeps nothing of before, also
not of a change that came while it was closed; it is saved without its text, and another document is
closed meanwhile. -/
theorem after_reflects_history_reopened :
    let url : Url := ⟨"file", some ⟨"", "", none⟩, .segments ["a.z"], none, none⟩
    let other : Url := ⟨"file", some ⟨"", "", none⟩, .segments ["b.z"], none, none⟩
    let since : List Call := [.updated "four" 4, .saved none]
    let history : List (Url × Call) := [
      (url, .opened "z" "one" 1), (other, .opened "z" "two" 7), (url, .closed),
      (url, .updated "lost" 9), (url, .opened "c" "three" 3), (other, .closed)] ++
      since.map fun call => (url, call)
    IsSession (callsOn url.text history) (.opened "c" "three" 3) since ∧
      (after history).get? url = some ⟨"four", 4, "c", false⟩ ∧
      (after history).isOpen other = false ∧
      (after history).updated other "late" 8 = after history := by
  intro url other since history
  have hcalls : callsOn url.text history =
      [.opened "z" "one" 1, .closed, .updated "lost" 9, .opened "c" "three" 3] ++ since := by
    decide +kernel
  have hsession : IsSession (callsOn url.text history) (.opened "c" "three" 3) since :=
    ⟨⟨[.opened "z" "one" 1, .closed, .updated "lost" 9], hcalls⟩, rfl, by decide⟩
  have hother : (after history).isOpen other = false := by decide +kernel
  obtain ⟨document, hheld, hleaves, -⟩ :=
    ((after_reflects_history history).1 url).2.2.1 _ _ hsession
  refine ⟨hsession, ?_, hother,
    (((after_reflects_history history).1 other).2.2.2 hother).2.2.1 "late" 8⟩
  have hleaves' : Leaves (.opened "c" "three" 3) since ⟨"four", 4, "c", false⟩ :=
    ⟨rfl, rfl, rfl, iff_of_false Bool.false_ne_true (by decide)⟩
  rw [hheld, hleaves.eq hleaves']

end Documents

end EditorBridge
