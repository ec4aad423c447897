import EditorBridge.Json.Record
import EditorBridge.Text.Quoted
import EditorBridge.Url.Reader

/-!
# Parameters

The parameters of the methods that the server implements, and the parts they share with those of
other methods.
-/

namespace EditorBridge.Rpc

open Json (Record Fields expectRecord)
open Json.Record (required optional defaulted nullable)

/-- Whatever value is given. -/
def anyValue (value : Json) : Except Mismatch Json :=
  .ok value

/-- The value as an address. -/
def expectUrl : Json → Except Mismatch Url
  | .string text =>
    (Url.parse text).mapError fun error =>
      .other (error.message ++ ": " ++ Text.quoted text)
  | value => value.unexpected "a string representing an URL"

/-- The value as a place in a text, by its line and column. -/
def expectPosition : Json → Except Mismatch (UInt32 × UInt32) :=
  expectRecord "Position"
    (Prod.mk <$> required "line" Json.expectUInt32 <*> required "character" Json.expectUInt32)

/-- The value as a part of a text. -/
def expectRange : Json → Except Mismatch Unit :=
  expectRecord "Range"
    ((fun _ _ => ()) <$> required "start" expectPosition <*> required "end" expectPosition)

/-- The value as the mention of a document. -/
def expectDocument : Json → Except Mismatch Url :=
  expectRecord "TextDocumentIdentifier" (required "uri" expectUrl)

/-- The value as the mention of a place in a document. -/
def documentPosition : Record (Url × UInt32 × UInt32) :=
  Prod.mk <$> required "textDocument" expectDocument <*> required "position" expectPosition

/-- The value as a mark by which work is reported. -/
def expectToken : Json → Except Mismatch Unit
  | .string _ => .ok ()
  | value =>
    match Json.expectInt32 value with
    | .ok _ => .ok ()
    | .error _ => .error (.other "data did not match any variant of untagged enum NumberOrString")

/-- The mark for reports about work, if there is one. -/
def workToken : Record Unit :=
  (fun _ => ()) <$> optional "workDoneToken" expectToken

/-- The mark for parts of a result, if there is one. -/
def resultToken : Record Unit :=
  (fun _ => ()) <$> optional "partialResultToken" expectToken

/-- The names of the groups of capabilities, and of the records that hold them. -/
def capabilityGroups : List (String × String) :=
  [("workspace", "WorkspaceClientCapabilities"),
    ("textDocument", "TextDocumentClientCapabilities"), ("window", "WindowClientCapabilities"),
    ("general", "GeneralClientCapabilities")]

/-- What the editor can do, of which nothing is used. -/
def capabilities : Record Unit :=
  capabilityGroups.foldr
    (fun (key, name) rest =>
      Record.append (fun _ _ => ()) (optional key (expectRecord name (pure ()))) rest)
    ((fun _ => ()) <$> optional "experimental" anyValue)

/-- The value as a folder of a workspace. -/
def expectFolder : Json → Except Mismatch Unit :=
  expectRecord "WorkspaceFolder"
    ((fun _ _ => ()) <$> required "uri" expectUrl <*> required "name" Json.expectText)

/-- The value as the name and version of an editor. -/
def expectClient : Json → Except Mismatch Unit :=
  expectRecord "ClientInfo"
    ((fun _ _ => ()) <$> required "name" Json.expectText <*> optional "version" Json.expectText)

/-- How much of the traffic may be logged. -/
def traceLevels : List String := ["off", "messages", "verbose"]

/-- What a session begins with: the root of the workspace and the editor's own options. -/
def expectBeginning : Json → Except Mismatch (Option Url × Option Json) :=
  expectRecord "InitializeParams"
    ((fun _ _ root options _ _ _ _ _ => (root, options))
      <$> optional "processId" Json.expectUInt32
      <*> optional "rootPath" Json.expectText
      <*> defaulted "rootUri" none (nullable expectUrl)
      <*> optional "initializationOptions" anyValue
      <*> required "capabilities" (expectRecord "ClientCapabilities" capabilities)
      <*> defaulted "trace" none (nullable (Json.expectName traceLevels))
      <*> optional "workspaceFolders" (Json.expectList expectFolder)
      <*> optional "clientInfo" expectClient
      <*> optional "locale" Json.expectText)

/-- A document that was opened. -/
structure OpenedDocument where
  /-- Its address. -/
  url : Url
  /-- Its language. -/
  languageId : String
  /-- The version of its text. -/
  version : Int
  /-- Its text. -/
  text : String

/-- The value as the opening of a document. -/
def expectOpening : Json → Except Mismatch OpenedDocument :=
  expectRecord "DidOpenTextDocumentParams"
    (required "textDocument" (expectRecord "TextDocumentItem"
      (OpenedDocument.mk <$> required "uri" expectUrl <*> required "languageId" Json.expectText
        <*> required "version" Json.expectInt32 <*> required "text" Json.expectText)))

/-- The value as a new text of a document. -/
def expectNewText : Json → Except Mismatch String :=
  expectRecord "TextDocumentContentChangeEvent"
    ((fun _ _ text => text) <$> optional "range" expectRange
      <*> optional "rangeLength" Json.expectUInt32 <*> required "text" Json.expectText)

/-- The value as a change of a document: its address, its version and its new texts. -/
def expectChange : Json → Except Mismatch ((Url × Int) × List String) :=
  expectRecord "DidChangeTextDocumentParams"
    (Prod.mk
      <$> required "textDocument" (expectRecord "VersionedTextDocumentIdentifier"
        (Prod.mk <$> required "uri" expectUrl <*> required "version" Json.expectInt32))
      <*> required "contentChanges" (Json.expectList expectNewText))

/-- The value as the saving of a document. -/
def expectSaving : Json → Except Mismatch (Url × Option String) :=
  expectRecord "DidSaveTextDocumentParams"
    (Prod.mk <$> required "textDocument" expectDocument <*> optional "text" Json.expectText)

/-- The value as the closing of a document. -/
def expectClosing : Json → Except Mismatch Url :=
  expectRecord "DidCloseTextDocumentParams" (required "textDocument" expectDocument)

/-- The value as a change of the editor's settings. -/
def expectConfiguration : Json → Except Mismatch Json :=
  expectRecord "DidChangeConfigurationParams" (required "settings" anyValue)

/-- The value as a command with its arguments. -/
def expectCommand (value : Json) : Except Mismatch (String × List Json) := do
  let fields ← value.expectSpread "ExecuteCommandParams"
  let command ← (Prod.mk <$> required "command" Json.expectText
    <*> defaulted "arguments" [] (Json.expectList anyValue)).ofFields fields
  workToken.ofFields fields
  return command

/-- The value as a question about a place in a document. -/
def expectQuestion (name : String) (value : Json) : Except Mismatch (Url × UInt32 × UInt32) := do
  let fields ← value.expectSpread name
  let position ← documentPosition.ofFields fields
  workToken.ofFields fields
  return position

end EditorBridge.Rpc
