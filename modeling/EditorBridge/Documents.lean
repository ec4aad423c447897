import EditorBridge.Source
import EditorBridge.Url.Reader

/-!
# Open documents

The documents that are open in the editor, by their addresses: their text, the version and language
the editor gave them, and whether they were changed since they were last saved. What happens to a
document that is not open changes nothing.
-/

namespace EditorBridge

/-- A document that is open in the editor. -/
structure OpenDocument where
  /-- Its text. -/
  content : String
  /-- The version of the text. -/
  version : Int
  /-- The language the editor announced. -/
  languageId : String
  /-- Whether the text was changed since it was opened or saved. -/
  dirty : Bool
deriving DecidableEq, Repr

/-- The open documents, each by the text of its address. -/
structure Documents where
  /-- The documents; each address stands there at most once. -/
  entries : List (String × OpenDocument)
deriving DecidableEq, Repr

namespace Documents

/-- No document is open. -/
def empty : Documents := ⟨[]⟩

instance : Inhabited Documents := ⟨empty⟩

/-- The open document at an address. -/
def get? (documents : Documents) (url : Url) : Option OpenDocument :=
  documents.entries.lookup url.text

/-- The text of the open document at an address. -/
def content? (documents : Documents) (url : Url) : Option String :=
  (documents.get? url).map (·.content)

/-- Whether the document at an address is open. -/
def isOpen (documents : Documents) (url : Url) : Bool :=
  (documents.get? url).isSome

/-- Whether the document at an address is open and changed. -/
def isDirty (documents : Documents) (url : Url) : Bool :=
  (documents.get? url).any (·.dirty)

/-- How many documents are open. -/
def count (documents : Documents) : Nat :=
  documents.entries.length

/-- The documents without the one at an address. -/
def closed (documents : Documents) (url : Url) : Documents :=
  ⟨documents.entries.filter (·.1 != url.text)⟩

/-- The documents with one opened, in place of an earlier one at its address. -/
def opened (documents : Documents) (url : Url) (languageId content : String) (version : Int) :
    Documents :=
  ⟨(url.text, ⟨content, version, languageId, false⟩) :: (documents.closed url).entries⟩

/-- The documents with a change to the one at an address, if it is open. -/
def modify (documents : Documents) (url : Url) (change : OpenDocument → OpenDocument) :
    Documents :=
  ⟨documents.entries.map fun entry =>
    if entry.1 = url.text then (entry.1, change entry.2) else entry⟩

/-- The documents when the text at an address was replaced. -/
def updated (documents : Documents) (url : Url) (content : String) (version : Int) : Documents :=
  documents.modify url fun document => { document with content, version, dirty := true }

/-- The documents when the one at an address was saved, with the saved text if it is known. -/
def saved (documents : Documents) (url : Url) (content : Option String) : Documents :=
  documents.modify url fun document =>
    { document with content := content.getD document.content, dirty := false }

/-- The document at an address as triggers see it, if it is stored in a file. -/
def source? (documents : Documents) (url : Url) : Option Source :=
  url.filePath?.map fun path => ⟨path, (documents.get? url).map (·.languageId)⟩

end Documents

end EditorBridge
