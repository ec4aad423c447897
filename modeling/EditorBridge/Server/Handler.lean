import EditorBridge.Compile.Task
import EditorBridge.FileSystem
import EditorBridge.Server.State

/-!
# Handlers of messages

What the server does on a message, as the steps it takes. A step looks at the server's state or at
the world outside, changes the state, reports something, or starts a compile in the background. A
report may be held up, and other handlers may run in the meantime; all other steps are taken at
once. A handler is data, so it can be run alone or among others.
-/

namespace EditorBridge

/-- What a handler has still to do, to answer with a value. -/
inductive Handler (α : Type) where
  /-- Nothing; this is the answer. -/
  | answer (value : α)
  /-- Look at the state of the server. -/
  | inspect (rest : Server → Handler α)
  /-- Look at the world outside. -/
  | consult (rest : World → Handler α)
  /-- Change the state of the server. -/
  | change (update : Server → Server) (rest : Handler α)
  /-- Report an entry to the journal. -/
  | record (entry : Entry) (rest : Handler α)
  /-- Tell the editor something that is not part of the journal. -/
  | announce (message : String) (rest : Handler α)
  /-- Start a compile that nobody waits for. -/
  | start (task : Compile.Task) (rest : Handler α)

namespace Handler

/-- Go on with what the answer leads to. -/
def andThen {α β : Type} (next : α → Handler β) : Handler α → Handler β
  | .answer value => next value
  | .inspect rest => .inspect fun server => (rest server).andThen next
  | .consult rest => .consult fun world => (rest world).andThen next
  | .change update rest => .change update (rest.andThen next)
  | .record entry rest => .record entry (rest.andThen next)
  | .announce message rest => .announce message (rest.andThen next)
  | .start task rest => .start task (rest.andThen next)

instance : Monad Handler where
  pure := .answer
  bind handler next := handler.andThen next

/-- Look up something in the state of the server. -/
def state {α : Type} (view : Server → α) : Handler α :=
  .inspect fun server => .answer (view server)

/-- Look up something in the world outside. -/
def outside {α : Type} (view : World → α) : Handler α :=
  .consult fun world => .answer (view world)

/-- Change the state of the server. -/
def update (change : Server → Server) : Handler Unit :=
  .change change (.answer ())

/-- Report entries one after another. -/
def report (entries : List Entry) : Handler Unit :=
  entries.foldr .record (.answer ())

/-- Start a compile, if there is one to start. -/
def launch : Option Compile.Task → Handler Unit
  | some task => .start task (.answer ())
  | none => .answer ()

end Handler

/-- What a handler lets the outside see. -/
inductive Effect where
  /-- An entry of the journal. -/
  | entry (reported : Entry)
  /-- A message to the editor itself. -/
  | announcement (message : String)
deriving DecidableEq, Repr

/-- The entry of an effect that is one. -/
def Effect.entry? : Effect → Option Entry
  | .entry reported => some reported
  | .announcement _ => none

/-- What a handler leaves that was run alone. -/
structure Handled (α : Type) where
  /-- Its answer. -/
  answer : α
  /-- The server after it. -/
  server : Server
  /-- What it let the outside see, in order. -/
  effects : List Effect
  /-- The compiles it started, in order. -/
  started : List Compile.Task

namespace Handler

/-- Run a handler alone. -/
def run {α : Type} (world : World) : Handler α → Server → Handled α
  | .answer value, server => ⟨value, server, [], []⟩
  | .inspect rest, server => (rest server).run world server
  | .consult rest, server => (rest world).run world server
  | .change update rest, server => rest.run world (update server)
  | .record entry rest, server =>
    let after := rest.run world server
    { after with effects := .entry entry :: after.effects }
  | .announce message rest, server =>
    let after := rest.run world server
    { after with effects := .announcement message :: after.effects }
  | .start task rest, server =>
    let after := rest.run world server
    { after with started := task :: after.started }

end Handler

end EditorBridge
