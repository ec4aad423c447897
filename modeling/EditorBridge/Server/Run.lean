import EditorBridge.Launch
import EditorBridge.Server.Handlers

/-!
# Running the server

A message is handled, and then everything it has started in the background runs to its end. What is
reported comes in that order.
-/

namespace EditorBridge

/-- What is left when a message has been dealt with. -/
structure Performed (α : Type) where
  /-- The answer. -/
  answer : α
  /-- The server after it. -/
  server : Server
  /-- The world after it. -/
  world : World
  /-- What the outside saw, in order. -/
  effects : List Effect

/-- Run compiles that nobody waits for one after another. -/
def completeAll (world : World) : List Compile.Task → List Entry × World
  | [] => ([], world)
  | task :: rest =>
    let done := task.detached World.launch (fun _ => false) world
    let (entries, world) := completeAll done.system rest
    (done.entries ++ entries, world)

/-- Run a handler and all that it starts. -/
def Handler.perform {α : Type} (handler : Handler α) (server : Server) (world : World) :
    Performed α :=
  let handled := handler.run world server
  let (entries, world) := completeAll world handled.started
  ⟨handled.answer, handled.server, world, handled.effects ++ entries.map .entry⟩

end EditorBridge
