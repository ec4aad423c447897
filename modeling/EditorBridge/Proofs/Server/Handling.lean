import EditorBridge.Rpc.Session

/-!
# Calls and what they leave

A call reaches the server in some world and is handled to its end. This module says, for each
call, which server, which entries and which compiles it leaves, so that no later proof has to
look into a handler again.

## Main definitions

* `Receipt`: a call together with the world it meets.
* `Server.received`, `Server.after`: the server after one call, and after a history of calls.
* `lastSaid?`: what a history says last about something.
* `Handled.journal`: what a handler adds to the journal.

## Main results

* `Handler.run_bind`: running handlers one after the other.
* `received_begin`, `received_didChangeConfiguration`: the only calls that change settings.
* `received_didOpen`, `received_didChange`, `received_didSave`, `received_didClose`: the only calls
  that change documents.
* `run_compile`: all that the compile command does.
-/

namespace EditorBridge

/-- What a handler that was run alone has added to the journal. -/
def Handled.journal {α : Type} (handled : Handled α) : Journal :=
  handled.effects.filterMap Effect.entry?

/-- Of entries that are reported the journal misses none. -/
@[simp]
theorem filterMap_entry? (entries : List Entry) :
    (entries.map Effect.entry).filterMap Effect.entry? = entries := by
  induction entries with
  | nil => rfl
  | cons entry rest ih => simpa [Effect.entry?] using ih

namespace Handler

variable {α β : Type}

@[simp]
theorem run_pure (world : World) (server : Server) (value : α) :
    (pure value : Handler α).run world server = ⟨value, server, [], []⟩ := rfl

/-- Running a handler and then what its answer leads to. -/
@[simp]
theorem run_bind (world : World) (server : Server) (handler : Handler α) (next : α → Handler β) :
    (handler >>= next).run world server =
      let first := handler.run world server
      let second := (next first.answer).run world first.server
      ⟨second.answer, second.server, first.effects ++ second.effects,
        first.started ++ second.started⟩ := by
  change (handler.andThen next).run world server = _
  induction handler generalizing server with
  | answer value => rfl
  | inspect rest ih => exact ih server server
  | consult rest ih => exact ih world server
  | change update rest ih => exact ih (update server)
  | record entry rest ih | announce message rest ih | start task rest ih =>
    simp only [andThen, run, ih]
    rfl

@[simp]
theorem run_map (world : World) (server : Server) (f : α → β) (handler : Handler α) :
    (f <$> handler).run world server =
      let first := handler.run world server
      ⟨f first.answer, first.server, first.effects, first.started⟩ := by
  change (handler >>= fun value => pure (f value)).run world server = _
  simp

@[simp]
theorem run_state (world : World) (server : Server) (view : Server → α) :
    (state view).run world server = ⟨view server, server, [], []⟩ := rfl

@[simp]
theorem run_outside (world : World) (server : Server) (view : World → α) :
    (outside view).run world server = ⟨view world, server, [], []⟩ := rfl

@[simp]
theorem run_update (world : World) (server : Server) (change : Server → Server) :
    (update change).run world server = ⟨(), change server, [], []⟩ := rfl

@[simp]
theorem run_report (world : World) (server : Server) (entries : List Entry) :
    (report entries).run world server = ⟨(), server, entries.map .entry, []⟩ := by
  induction entries with
  | nil => rfl
  | cons entry rest ih =>
    change (Handler.record entry (report rest)).run world server = _
    simp only [run, ih, List.map_cons]

@[simp]
theorem run_launch (world : World) (server : Server) (task : Option Compile.Task) :
    (launch task).run world server = ⟨(), server, [], task.toList⟩ := by
  cases task <;> rfl

end Handler

namespace Server

/-- Reacting to a trigger reports and starts what the reaction says, and changes nothing. -/
@[simp]
theorem run_react (world : World) (server : Server) (reaction : Trigger.Reaction) :
    (react reaction).run world server =
      ⟨(), server, reaction.parts.1.map .entry, reaction.parts.2.toList⟩ := by
  simp [react]

/-- All that the compile command does: it reports the notices that belong before the compile, and
then reacts to the document under the settings in force. -/
theorem run_compile (world : World) (server : Server) (arguments : List Json) :
    (compile arguments).run world server =
      let url := argumentUrl? arguments
      let reaction := Trigger.command (url.bind server.documents.source?) server.settings
        world.currentPath
      ⟨(), server, (url.elim [] server.notices ++ reaction.parts.1).map .entry,
        reaction.parts.2.toList⟩ := by
  simp [compile]

/-- A command that is not the compile command has no effect. -/
theorem run_executeCommand_of_ne (world : World) (server : Server) {command : String}
    (arguments : List Json) (hcommand : command ≠ compileCommand) :
    (executeCommand command arguments).run world server =
      ⟨.error (unknownCommandMessage command), server, [], []⟩ := by
  simp [executeCommand, hcommand]

/-- The compile command is executed by compiling the active document. -/
theorem run_executeCommand_compileCommand (world : World) (server : Server)
    (arguments : List Json) :
    (executeCommand compileCommand arguments).run world server =
      let url := argumentUrl? arguments
      let reaction := Trigger.command (url.bind server.documents.source?) server.settings
        world.currentPath
      ⟨.ok (), server, (url.elim [] server.notices ++ reaction.parts.1).map .entry,
        reaction.parts.2.toList⟩ := by
  simp [executeCommand, run_compile]

end Server

/-! ## Histories of calls -/

/-- A call as it reaches the server, with the world it meets. -/
structure Receipt where
  /-- What is called. -/
  call : Rpc.Call
  /-- The world outside at that moment. -/
  world : World

/-- What a history says last, of all that its events say. -/
def lastSaid? {ε α : Type} (view : ε → Option α) (history : List ε) : Option α :=
  history.reverse.findSome? view

@[simp]
theorem lastSaid?_nil {ε α : Type} (view : ε → Option α) : lastSaid? view [] = none := rfl

/-- The last event of a history has the last word, unless it says nothing. -/
@[simp]
theorem lastSaid?_concat {ε α : Type} (view : ε → Option α) (history : List ε) (event : ε) :
    lastSaid? view (history ++ [event]) = (view event).or (lastSaid? view history) := by
  rw [lastSaid?, List.reverse_append, List.reverse_singleton, List.singleton_append,
    List.findSome?_cons]
  cases view event <;> rfl

namespace Server

/-- The server after a call was handled. -/
def received (server : Server) (receipt : Receipt) : Server :=
  ((Rpc.handle receipt.call).run receipt.world server).server

/-- The server after a history of calls, each handled before the next one. -/
def after (server : Server) (history : List Receipt) : Server :=
  history.foldl received server

@[simp]
theorem after_nil (server : Server) : server.after [] = server := rfl

@[simp]
theorem after_concat (server : Server) (history : List Receipt) (receipt : Receipt) :
    server.after (history ++ [receipt]) = (server.after history).received receipt := by
  simp [after]

variable (server : Server) (world : World)

/-- The beginning of a session looks for a settings file, takes the editor's options if they can
be used, and remembers the root. -/
theorem received_begin (root : Option Url) (options : Option Json) :
    server.received ⟨.begin root options, world⟩ =
      let path := root.bind (·.filePath?)
      let found := server.discover (path.bind (Settings.loadWorkspace world))
      { options.elim found found.pushSettings with root := path } := by
  cases options <;> simp [received, Rpc.handle, begin]

@[simp]
theorem received_didChangeConfiguration (pushed : Json) :
    server.received ⟨.didChangeConfiguration pushed, world⟩ = server.pushSettings pushed := by
  simp [received, Rpc.handle, didChangeConfiguration]

@[simp]
theorem received_didOpen (document : Rpc.OpenedDocument) :
    server.received ⟨.didOpen document, world⟩ =
      server.mapDocuments
        (·.opened document.url document.languageId document.text document.version) := by
  simp [received, Rpc.handle, didOpen]

/-- A change takes the first of its texts, if the document is open and there is one. -/
theorem received_didChange (url : Url) (version : Int) (texts : List String) :
    server.received ⟨.didChange url version texts, world⟩ =
      match server.documents.isOpen url, texts.head? with
      | true, some text => server.mapDocuments (·.updated url text version)
      | _, _ => server := by
  cases hopen : server.documents.isOpen url <;> cases htexts : texts.head? <;>
    simp [received, Rpc.handle, didChange, hopen, htexts]

@[simp]
theorem received_didSave (url : Url) (text : Option String) :
    server.received ⟨.didSave url text, world⟩ =
      server.mapDocuments (·.saved url text) := by
  simp only [received, Rpc.handle, didSave, Handler.run_bind, Handler.run_update,
    Handler.run_state]
  split <;> simp

@[simp]
theorem received_didClose (url : Url) :
    server.received ⟨.didClose url, world⟩ = server.mapDocuments (·.closed url) := by
  simp [received, Rpc.handle, didClose]

@[simp]
theorem received_executeCommand (command : String) (arguments : List Json) :
    server.received ⟨.executeCommand command arguments, world⟩ = server := by
  by_cases hcommand : command = compileCommand
  · subst hcommand
    simp [received, Rpc.handle, run_executeCommand_compileCommand]
  · simp [received, Rpc.handle, run_executeCommand_of_ne _ _ _ hcommand]

@[simp]
theorem received_hover (url : Url) (line column : UInt32) :
    server.received ⟨.hover url line column, world⟩ = server := by
  simp [received, Rpc.handle, hover]

@[simp]
theorem received_ready : server.received ⟨.ready, world⟩ = server := rfl

@[simp]
theorem received_shutdown : server.received ⟨.shutdown, world⟩ = server := rfl

@[simp]
theorem received_leave : server.received ⟨.leave, world⟩ = server := rfl

@[simp]
theorem received_unsupported : server.received ⟨.unsupported, world⟩ = server := rfl

end Server

end EditorBridge
