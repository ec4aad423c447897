import EditorBridge.Rpc.Method
import EditorBridge.Server.Run

/-!
# Sessions

A session with an editor: it begins with a request of its own, ends in two steps, and in between
the messages reach the server. Notifications are never answered, and a request that comes at the
wrong time is refused.
-/

namespace EditorBridge.Rpc

/-- How far a session has come. -/
inductive Phase where
  /-- It has not begun. -/
  | waiting
  /-- It has begun. -/
  | running
  /-- Its work is done. -/
  | stopped
  /-- It has ended. -/
  | ended
deriving DecidableEq, Repr

/-- A session. -/
structure Session where
  /-- How far it has come. -/
  phase : Phase := .waiting
  /-- The server. -/
  server : Server
  /-- The world outside. -/
  world : World

/-- What a message leads to. -/
structure Exchange where
  /-- The answer, if there is one. -/
  response : Option Json
  /-- What is sent to the editor besides, in order. -/
  sent : List Json
  /-- The session afterwards. -/
  session : Session

/-- What the server can do for an editor. -/
def serverCapabilities : Json :=
  .ofFields [
    ("executeCommandProvider", .ofFields [("commands", .ofTexts [Server.compileCommand])]),
    ("hoverProvider", .bool true),
    ("textDocumentSync", .ofFields [
      ("change", .ofNat 1),
      ("openClose", .bool true),
      ("save", .ofFields [("includeText", .bool true)])])]

/-- The name and version of the server. -/
def serverInfo : Json :=
  .ofFields [("name", .string Server.serverName), ("version", .string Server.serverVersion)]

/-- The answer to the beginning of a session. -/
def welcome : Json :=
  .ofFields [("capabilities", serverCapabilities), ("serverInfo", serverInfo)]

/-- A place as an editor counts it, from zero. -/
def placeJson (line column : UInt32) : Json :=
  .ofFields [("line", .ofUInt32 (line - 1)), ("character", .ofUInt32 (column - 1))]

/-- The range of a word as an editor counts it. -/
def rangeJson (range : Hover.WordRange) : Json :=
  .ofFields [("start", placeJson range.line range.startCol),
    ("end", placeJson range.line range.endCol)]

/-- What an editor shows about a keyword. -/
def hoverJson (info : Hover.Info) : Json :=
  .ofFields (
    [("contents", .ofFields [("kind", .string "markdown"), ("value", .string info.markdown)])] ++
    (info.range.map fun range => ("range", rangeJson range)).toList)

/-- What the server does on a call. -/
def handle : Call → Handler (Except Refusal Json)
  | .begin root options => do
    Server.begin root options
    return .ok welcome
  | .ready => do
    Server.initialized
    return .ok .null
  | .shutdown | .leave => return .ok .null
  | .didOpen document => do
    Server.didOpen document.url document.languageId document.text document.version
    return .ok .null
  | .didChange url version texts => do
    Server.didChange url version texts
    return .ok .null
  | .didSave url text => do
    Server.didSave url text
    return .ok .null
  | .didClose url => do
    Server.didClose url
    return .ok .null
  | .didChangeConfiguration pushed => do
    Server.didChangeConfiguration pushed
    return .ok .null
  | .executeCommand command arguments => do
    match ← Server.executeCommand command arguments with
    | .ok () => return .ok .null
    | .error message => return .error (.badParams message)
  | .hover url line column =>
    return .ok (.ofOption hoverJson (← Server.hover url line column))
  | .unsupported => return .error (.noMethod none)

namespace Session

/-- The refusal of a message that does not come at the right time. -/
def refusal (session : Session) : Refusal :=
  if session.phase = .waiting then .notBegun else .invalidRequest

/-- The session after a message that only has an answer. -/
def reply (session : Session) (id : Option Id) (result : Except Refusal Json) : Exchange :=
  ⟨id.map fun id => answer (some id) result, [], session⟩

/-- Let a method handle a message, and whether it was handled well. -/
def dispatch (session : Session) (method : Method) (request : Request) : Exchange × Bool :=
  match request.id, method.answered with
  | some id, false => (session.reply (some id) (.error .invalidRequest), false)
  | none, true => (session.reply none (.ok .null), false)
  | id, _ =>
    match method.call request.params with
    | .error message => (session.reply id (.error (.badParams message)), false)
    | .ok call =>
      let done := (handle call).perform session.server session.world
      let after := { session with server := done.server, world := done.world }
      let exchange := after.reply id done.answer
      ({ exchange with sent := done.effects.map ofEffect }, done.answer.toBool)

/-- Let a method handle a message, if it comes at the right time. -/
def receiveBy (session : Session) (method : Method) (request : Request) : Exchange :=
  match method.stage with
  | .always => (session.dispatch method request).1
  | .final => ⟨none, [], { session with phase := .ended }⟩
  | .running =>
    if session.phase = .running then (session.dispatch method request).1
    else session.reply request.id (.error session.refusal)
  | .ending =>
    if session.phase = .running then
      ({ session with phase := .stopped }.dispatch method request).1
    else session.reply request.id (.error session.refusal)
  | .beginning =>
    if session.phase = .waiting then
      let (exchange, began) := session.dispatch method request
      if began then { exchange with session := { exchange.session with phase := .running } }
      else exchange
    else session.reply request.id (.error .invalidRequest)

/-- Whether the name of a method is one that may be ignored. -/
def mayIgnore (name : String) : Bool :=
  "$/".toList.isPrefixOf name.toList

/-- Receive a message. One for a method that does not exist is refused at any time, unless it may be
ignored. -/
def receive (session : Session) (request : Request) : Exchange :=
  match Method.find? request.method with
  | some method => session.receiveBy method request
  | none =>
    if mayIgnore request.method then ⟨none, [], session⟩
    else session.reply request.id (.error (.noMethod (some request.method)))

/-- Whether the session has ended, so that nothing can be received. -/
def hasEnded (session : Session) : Bool :=
  session.phase == .ended

/-- The message for whoever still sends something. -/
def endedMessage : String := "language server has exited"

end Session

end EditorBridge.Rpc
