import EditorBridge.Json.Reader
import EditorBridge.Rpc.Session

/-!
# Bridges

A session over a stream of messages. A message that cannot be understood is refused, and then nothing
more is read; so is one that comes after the end of the session.
-/

namespace EditorBridge.Rpc

open Text (Bytes)

/-- A session over a stream. -/
structure Bridge where
  /-- The session. -/
  session : Session
  /-- Whether messages are still read. -/
  listening : Bool := true

namespace Bridge

/-- Whether a value tells what went wrong with a request. -/
def isRefusal (value : Json) : Bool :=
  ((value.field? "code").bind Json.int?).isSome &&
    ((value.field? "message").bind Json.text?).isSome

/-- Whether a message is an answer to something the server has asked. -/
def isAnswer (message : Json) : Bool :=
  (message.field? "jsonrpc").bind Json.text? == some version &&
    (message.field? "id").isSome && (Request.id? (message.field? "id")).isSome &&
    ((message.field? "result").isSome || (message.field? "error").any isRefusal)

/-- The bridge that reads nothing more. -/
def deaf (bridge : Bridge) : Bridge :=
  { bridge with listening := false }

/-- Refuse a message that cannot be understood. -/
def refuse (bridge : Bridge) (refusal : Refusal) : List Json × Bridge :=
  ([answer none (.error refusal)], bridge.deaf)

/-- Receive a message that is JSON. -/
def receiveJson (bridge : Bridge) (message : Json) : List Json × Bridge :=
  if isAnswer message then ([], bridge)
  else
    match Request.ofJson? message with
    | none => bridge.refuse .invalidRequest
    | some request =>
      if bridge.session.hasEnded then ([], bridge.deaf)
      else
        let exchange := bridge.session.receive request
        (exchange.sent ++ exchange.response.toList, { bridge with session := exchange.session })

/-- Receive the text of a message. An empty one is passed over. -/
def receive (bridge : Bridge) (body : Bytes) : List Json × Bridge :=
  if !bridge.listening || body.isEmpty then ([], bridge)
  else
    match (Text.ofBytes? body).bind Json.read? with
    | none => bridge.refuse .unreadable
    | some message => bridge.receiveJson message

/-- Receive messages one after another. -/
def receiveAll (bridge : Bridge) : List Bytes → List Json × Bridge
  | [] => ([], bridge)
  | body :: rest =>
    let (sent, bridge) := bridge.receive body
    let (more, bridge) := receiveAll bridge rest
    (sent ++ more, bridge)

end Bridge

end EditorBridge.Rpc
