import EditorBridge.Compile.Task
import EditorBridge.Source

/-!
# Triggers

What makes a compile start: the explicit command and the saving of a document. Both check their
conditions before anything is started.
-/

namespace EditorBridge

open Compile

/-- Why a compile command is refused. -/
inductive TriggerError where
  /-- There is no document to compile. -/
  | noActiveEditor
  /-- The document is of another language. -/
  | notZFile (path : Path)
  /-- There is no valid request for it. -/
  | request (error : RequestError)
deriving DecidableEq, Repr

/-- The words for a refusal. -/
def TriggerError.message : TriggerError → String
  | .noActiveEditor => "No active editor"
  | .notZFile _ => "Current file is not a Z file"
  | .request error => error.message

namespace Trigger

/-- What a trigger leads to. -/
inductive Reaction where
  /-- Nothing at all. -/
  | ignored
  /-- A notification, and no compile. -/
  | rejected (notice : Entry)
  /-- A compile. -/
  | started (request : Request)
deriving DecidableEq, Repr

/-- The reaction to a request that was made or refused. -/
def Reaction.ofRequest : Except TriggerError Request → Reaction
  | .ok request => .started request
  | .error error => .rejected (.error error.message)

/-- The compile of the active document. -/
def compile (active : Option Source) (settings : Settings)
    (current : Except SystemError Path) : Except TriggerError Request := do
  let source ← active.elim (throw .noActiveEditor) pure
  if !source.isZ then throw (.notZFile source.path)
  (Request.make source.path settings current).mapError .request

/-- The reaction to the compile command. -/
def command (active : Option Source) (settings : Settings)
    (current : Except SystemError Path) : Reaction :=
  .ofRequest (compile active settings current)

/-- The reaction to a saved document: none unless it is a Z file and saving is to compile. -/
def saved (source : Source) (settings : Settings) (current : Except SystemError Path) : Reaction :=
  if source.isZ && settings.autoCompileOnSave then
    .ofRequest ((Request.make source.path settings current).mapError .request)
  else .ignored

/-- The entries a reaction records at once, and the task it starts. -/
def Reaction.parts : Reaction → List Entry × Option Task
  | .ignored => ([], none)
  | .rejected notice => ([notice], none)
  | .started request => ([], some (.dispatch request))

end Trigger

end EditorBridge
