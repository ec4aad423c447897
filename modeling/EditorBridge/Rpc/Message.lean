import EditorBridge.Json.Expect
import EditorBridge.Server.Handler
import EditorBridge.Word

/-!
# Messages

The messages of JSON-RPC: requests, which are answered, notifications, which are not, the answers,
and the notifications that the server sends itself.
-/

namespace EditorBridge.Rpc

/-- The version of the protocol that every message names. -/
def version : String := "2.0"

/-- What tells the answers to several requests apart. -/
inductive Id where
  /-- A number. -/
  | number (value : Int)
  /-- A text. -/
  | text (value : String)
  /-- Nothing, given as such. -/
  | null
deriving DecidableEq, Repr

/-- The JSON form of an identifier. -/
def Id.toJson : Id → Json
  | .number value => .number (.int value)
  | .text value => .string value
  | .null => .null

/-- A request, or without an identifier a notification. -/
structure Request where
  /-- The method that is called. -/
  method : String
  /-- Its parameters. -/
  params : Option Json
  /-- The identifier for the answer. -/
  id : Option Id

namespace Request

/-- The identifier of a message, which may have none; `none` if it is no identifier. -/
def id? : Option Json → Option (Option Id)
  | none => some none
  | some .null => some (some .null)
  | some (.string text) => some (some (.text text))
  | some (.number (.int n)) => if Word.fitsSigned 64 n then some (some (.number n)) else none
  | some _ => none

/-- The method of a message. -/
def method? : Option Json → Option String
  | none => some ""
  | some value => value.text?

/-- The request that a message is, if it is one. -/
def ofJson? (message : Json) : Option Request := do
  guard ((message.field? "jsonrpc").bind Json.text? == some version)
  let method ← method? (message.field? "method")
  let id ← id? (message.field? "id")
  return { method, params := message.field? "params", id }

end Request

/-- Why a request is refused. -/
structure Refusal where
  /-- The number of the kind of error. -/
  code : Int
  /-- The error in words. -/
  message : String
  /-- More about it. -/
  data : Option String := none
deriving DecidableEq, Repr

namespace Refusal

/-- The text was no JSON. -/
def unreadable : Refusal := ⟨-32700, "Parse error", none⟩

/-- The message was none that is expected. -/
def invalidRequest : Refusal := ⟨-32600, "Invalid request", none⟩

/-- There is no such method. Its name is given unless the server knows it. -/
def noMethod (name : Option String) : Refusal := ⟨-32601, "Method not found", name⟩

/-- The parameters cannot be used. -/
def badParams (message : String) : Refusal := ⟨-32602, message, none⟩

/-- The session has not begun. -/
def notBegun : Refusal := ⟨-32002, "Server not initialized", none⟩

/-- The JSON form of a refusal. -/
def toJson (refusal : Refusal) : Json :=
  .ofFields ([("code", .number (.int refusal.code)), ("message", .string refusal.message)] ++
    match refusal.data with
    | some data => [("data", .string data)]
    | none => [])

end Refusal

/-- The answer to a request, or to a message whose identifier is unknown. -/
def answer (id : Option Id) (result : Except Refusal Json) : Json :=
  let content := match result with
    | .ok value => ("result", value)
    | .error refusal => ("error", refusal.toJson)
  .ofFields [("jsonrpc", .string version), ("id", .ofOption Id.toJson id), content]

/-- A notification to the editor. -/
def notification (method : String) (params : Json) : Json :=
  .ofFields [("jsonrpc", .string version), ("method", .string method), ("params", params)]

/-- The kinds of messages shown in an editor. -/
inductive MessageKind where
  /-- A failure. -/
  | error
  /-- Information. -/
  | info
  /-- A line of a log. -/
  | log
deriving DecidableEq, Repr

/-- The number of a kind. -/
def MessageKind.number : MessageKind → Nat
  | .error => 1
  | .info => 3
  | .log => 4

/-- The parameters for a message of some kind. -/
def messageParams (kind : MessageKind) (message : String) : Json :=
  .ofFields [("message", .string message), ("type", .ofNat kind.number)]

/-- The method by which the log of an editor grows. -/
def logMethod : String := "window/logMessage"

/-- The method by which an editor shows a message. -/
def showMethod : String := "window/showMessage"

/-- The notification by which an effect reaches the editor. Lines go to its log and notifications
are shown. -/
def ofEffect : Effect → Json
  | .entry (.line text) => notification logMethod (messageParams .log text)
  | .entry (.notification ⟨.info, message⟩) =>
    notification showMethod (messageParams .info message)
  | .entry (.notification ⟨.error, message⟩) =>
    notification showMethod (messageParams .error message)
  | .announcement message => notification logMethod (messageParams .info message)

end EditorBridge.Rpc
