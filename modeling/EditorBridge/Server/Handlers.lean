import EditorBridge.Hover.Info
import EditorBridge.Server.Handler
import EditorBridge.Settings.File
import EditorBridge.Trigger

/-!
# The server's handlers

What the server does when it is initialized, when documents are opened, changed, saved and closed,
when settings change, when a command is to be executed and when the pointer rests on a word.
-/

namespace EditorBridge.Server

/-- The command that compiles the active document. -/
def compileCommand : String := "z.compile"

/-- The name of the server. -/
def serverName : String := "z-editor"

/-- The version of the server. -/
def serverVersion : String := "0.1.0"

/-- The beginning of a session: the root of the workspace and the editor's own options. -/
def begin (root : Option Url) (options : Option Json) : Handler Unit := do
  let root := root.bind (·.filePath?)
  let file ← Handler.outside fun world => root.bind (Settings.loadWorkspace world)
  Handler.update (discover file)
  if let some options := options then Handler.update (pushSettings options)
  Handler.update fun server => { server with root }

/-- The editor is ready. -/
def initialized : Handler Unit :=
  .announce (serverName ++ " ready") (.answer ())

/-- A document was opened. -/
def didOpen (url : Url) (languageId text : String) (version : Int) : Handler Unit :=
  Handler.update (mapDocuments (·.opened url languageId text version))

/-- The text of a document was replaced, by the first of the given texts. -/
def didChange (url : Url) (version : Int) (texts : List String) : Handler Unit := do
  if ← Handler.state (·.documents.isOpen url) then
    if let some text := texts.head? then
      Handler.update (mapDocuments (·.updated url text version))

/-- Report what a trigger leads to, and start what it starts. -/
def react (reaction : Trigger.Reaction) : Handler Unit := do
  let (entries, task) := reaction.parts
  Handler.report entries
  Handler.launch task

/-- A document was saved. -/
def didSave (url : Url) (text : Option String) : Handler Unit := do
  Handler.update (mapDocuments (·.saved url text))
  if let some source ← Handler.state (·.documents.source? url) then
    let settings ← Handler.state (·.settings)
    let current ← Handler.outside (·.currentPath)
    react (Trigger.saved source settings current)

/-- A document was closed. -/
def didClose (url : Url) : Handler Unit :=
  Handler.update (mapDocuments (·.closed url))

/-- The editor's settings have changed. -/
def didChangeConfiguration (pushed : Json) : Handler Unit :=
  Handler.update (pushSettings pushed)

/-- The line that says that the text in the editor is not what is compiled. -/
def unsavedNotice (source : Source) : Entry :=
  .line (source.path.display ++ " has unsaved changes; compiling the saved file")

/-- The address that a command's arguments name. -/
def argumentUrl? (arguments : List Json) : Option Url :=
  (arguments.head?.bind Json.text?).bind fun text => (Url.parse text).toOption

/-- The notice that belongs before the compile of a document, if it has changes that are not
saved. -/
def notices (server : Server) (url : Url) : List Entry :=
  match server.documents.source? url with
  | some source =>
    if source.isZ && server.documents.isDirty url then [unsavedNotice source] else []
  | none => []

/-- The compile command. -/
def compile (arguments : List Json) : Handler Unit := do
  let url := argumentUrl? arguments
  let (active, notices) ← Handler.state fun server =>
    (url.bind server.documents.source?, url.elim [] server.notices)
  Handler.report notices
  let settings ← Handler.state (·.settings)
  let current ← Handler.outside (·.currentPath)
  react (Trigger.command active settings current)

/-- The message for a command that does not exist. -/
def unknownCommandMessage (command : String) : String :=
  "Unknown command: " ++ command

/-- A command is to be executed. -/
def executeCommand (command : String) (arguments : List Json) : Handler (Except String Unit) := do
  if command = compileCommand then .ok <$> compile arguments
  else return .error (unknownCommandMessage command)

/-- The largest number of a line or column. -/
def maxPosition : UInt32 := 0xffffffff

/-- The number behind another one; behind the largest stands the largest. -/
def behind (n : UInt32) : UInt32 :=
  if n = maxPosition then n else n + 1

/-- The pointer rests on a place, whose line and column are counted from zero. -/
def hover (url : Url) (line column : UInt32) : Handler (Option Hover.Info) :=
  Handler.state fun server => do
    let content ← server.documents.content? url
    Hover.infoAt? content ⟨behind line, behind column⟩

end EditorBridge.Server
