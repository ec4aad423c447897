import EditorBridge.Json.Writer
import EditorBridge.Rpc.Message
import EditorBridge.Rpc.Params

/-!
# Methods

The methods an editor can call: the parameters they take, whether they are answered, and when in a
session they may be called. Of the methods that the server does not implement the parameters are
checked all the same.
-/

namespace EditorBridge.Rpc

open Json (Record expectRecord)
open Json.Record (required optional defaulted nullable)

/-- What an editor asks for or tells. -/
inductive Call where
  /-- The session begins. -/
  | begin (root : Option Url) (options : Option Json)
  /-- The editor is ready. -/
  | ready
  /-- The session is about to end. -/
  | shutdown
  /-- The session ends. -/
  | leave
  /-- A document was opened. -/
  | didOpen (document : OpenedDocument)
  /-- A document was changed. -/
  | didChange (url : Url) (version : Int) (texts : List String)
  /-- A document was saved. -/
  | didSave (url : Url) (text : Option String)
  /-- A document was closed. -/
  | didClose (url : Url)
  /-- The settings were changed. -/
  | didChangeConfiguration (pushed : Json)
  /-- A command is to be executed. -/
  | executeCommand (command : String) (arguments : List Json)
  /-- The pointer rests on a place. -/
  | hover (url : Url) (line column : UInt32)
  /-- Something the server does not do. -/
  | unsupported

/-- When a method may be called. -/
inductive Stage where
  /-- To begin the session. -/
  | beginning
  /-- While the session lasts. -/
  | running
  /-- To end the session's work. -/
  | ending
  /-- At any time. -/
  | always
  /-- At any time, and nothing may be called afterwards. -/
  | final
deriving DecidableEq, Repr

/-- A method. -/
structure Method where
  /-- Its name. -/
  name : String
  /-- Whether it is a request, which is answered. -/
  answered : Bool
  /-- When it may be called. -/
  stage : Stage
  /-- What is called, by the parameters. -/
  call : Option Json → Except String Call

namespace Method

/-- What is called by parameters that have to be there. -/
def withParams {α : Type} (read : Json → Except Mismatch α) (call : α → Call) :
    Option Json → Except String Call
  | none => .error "Missing params field"
  | some params => (call <$> read params).mapError (·.message)

/-- What is called without any parameters. -/
def withoutParams (call : Call) : Option Json → Except String Call
  | none => .ok call
  | some params => .error ("Unexpected params: " ++ params.write)

/-- A request of a running session. -/
def request {α : Type} (name : String) (read : Json → Except Mismatch α) (call : α → Call) :
    Method :=
  ⟨name, true, .running, withParams read call⟩

/-- A notification of a running session. -/
def event {α : Type} (name : String) (read : Json → Except Mismatch α) (call : α → Call) :
    Method :=
  ⟨name, false, .running, withParams read call⟩

/-- The methods that the server implements. -/
def supported : List Method := [
  ⟨"initialize", true, .beginning,
    withParams expectBeginning fun (root, options) => .begin root options⟩,
  event "initialized" (expectRecord "InitializedParams" (pure ())) fun _ => .ready,
  ⟨"shutdown", true, .ending, withoutParams .shutdown⟩,
  ⟨"exit", false, .final, withoutParams .leave⟩,
  ⟨"$/cancelRequest", false, .always,
    withParams (expectRecord "CancelParams" (required "id" expectToken)) fun _ => .unsupported⟩,
  event "textDocument/didOpen" expectOpening .didOpen,
  event "textDocument/didChange" expectChange fun ((url, version), texts) =>
    .didChange url version texts,
  event "textDocument/didSave" expectSaving fun (url, text) => .didSave url text,
  event "textDocument/didClose" expectClosing .didClose,
  event "workspace/didChangeConfiguration" expectConfiguration .didChangeConfiguration,
  request "workspace/executeCommand" expectCommand fun (command, arguments) =>
    .executeCommand command arguments,
  request "textDocument/hover" (expectQuestion "HoverParams") fun (url, line, column) =>
    .hover url line column]

/-- The parameters of a method over whose fields other records are spread: a place in a document
perhaps, and the marks for reports. -/
def spread (name : String) (own : Record Unit) (positioned : Bool) (value : Json) :
    Except Mismatch Unit := do
  let fields ← value.expectSpread name
  own.ofFields fields
  if positioned then discard (documentPosition.ofFields fields)
  workToken.ofFields fields
  resultToken.ofFields fields

/-- A request about a place in a document. -/
def positionRequest (method name : String) (own : Record Unit) : Method :=
  request method (spread name own true) fun _ => .unsupported

/-- A request about a document or a workspace. -/
def plainRequest (method name : String) (own : Record Unit) : Method :=
  request method (spread name own false) fun _ => .unsupported

/-- A request whose parameters are a record of their own. -/
def recordRequest (method name : String) (record : Record Unit) : Method :=
  request method (expectRecord name record) fun _ => .unsupported

/-- A part that is only checked. -/
def need {α : Type} (key : String) (read : Json → Except Mismatch α) : Record Unit :=
  (fun _ => ()) <$> required key read

/-- A part that is only checked and may be missing. -/
def may {α : Type} (key : String) (read : Json → Except Mismatch α) : Record Unit :=
  (fun _ => ()) <$> optional key read

/-- Parts one after another. -/
def parts (records : List (Record Unit)) : Record Unit :=
  records.foldr (Record.append fun _ _ => ()) (pure ())

/-- The document that a request is about. -/
def document : Record Unit := need "textDocument" expectDocument

/-- The part of a text that a request is about. -/
def range : Record Unit := need "range" expectRange

/-- How a text is to be laid out. -/
def layout : Record Unit :=
  need "options" (expectRecord "FormattingOptions"
    (parts [need "tabSize" Json.expectUInt32, need "insertSpaces" Json.expectBool]))

/-- The files that a request is about, each with texts of some names. -/
def fileList (name : String) (keys : List String) : Record Unit :=
  need "files" (Json.expectList (expectRecord name
    (parts (keys.map fun key => need key Json.expectText))))

/-- The requests that the server does not implement. -/
def unsupportedRequests : List Method := [
  positionRequest "textDocument/declaration" "GotoDefinitionParams" (pure ()),
  positionRequest "textDocument/definition" "GotoDefinitionParams" (pure ()),
  positionRequest "textDocument/typeDefinition" "GotoDefinitionParams" (pure ()),
  positionRequest "textDocument/implementation" "GotoDefinitionParams" (pure ()),
  positionRequest "textDocument/references" "ReferenceParams"
    (need "context" (expectRecord "ReferenceContext"
      (need "includeDeclaration" Json.expectBool))),
  positionRequest "textDocument/prepareCallHierarchy" "CallHierarchyPrepareParams" (pure ()),
  plainRequest "callHierarchy/incomingCalls" "CallHierarchyIncomingCallsParams"
    (need "item" anyValue),
  plainRequest "callHierarchy/outgoingCalls" "CallHierarchyOutgoingCallsParams"
    (need "item" anyValue),
  positionRequest "textDocument/prepareTypeHierarchy" "TypeHierarchyPrepareParams" (pure ()),
  plainRequest "typeHierarchy/supertypes" "TypeHierarchySupertypesParams" (need "item" anyValue),
  plainRequest "typeHierarchy/subtypes" "TypeHierarchySubtypesParams" (need "item" anyValue),
  positionRequest "textDocument/documentHighlight" "DocumentHighlightParams" (pure ()),
  plainRequest "textDocument/documentLink" "DocumentLinkParams" document,
  recordRequest "documentLink/resolve" "DocumentLink" range,
  plainRequest "textDocument/codeLens" "CodeLensParams" document,
  recordRequest "codeLens/resolve" "CodeLens" range,
  plainRequest "textDocument/foldingRange" "FoldingRangeParams" document,
  plainRequest "textDocument/selectionRange" "SelectionRangeParams"
    (parts [document, need "positions" (Json.expectList expectPosition)]),
  plainRequest "textDocument/documentSymbol" "DocumentSymbolParams" document,
  plainRequest "textDocument/semanticTokens/full" "SemanticTokensParams" document,
  plainRequest "textDocument/semanticTokens/full/delta" "SemanticTokensDeltaParams"
    (parts [document, need "previousResultId" Json.expectText]),
  plainRequest "textDocument/semanticTokens/range" "SemanticTokensRangeParams"
    (parts [document, range]),
  plainRequest "textDocument/inlineValue" "InlineValueParams"
    (parts [document, range, need "context" anyValue]),
  plainRequest "textDocument/inlayHint" "InlayHintParams" (parts [document, range]),
  recordRequest "inlayHint/resolve" "InlayHint"
    (parts [need "position" expectPosition, need "label" anyValue]),
  positionRequest "textDocument/moniker" "MonikerParams" (pure ()),
  positionRequest "textDocument/completion" "CompletionParams" (may "context" anyValue),
  recordRequest "completionItem/resolve" "CompletionItem" (need "label" Json.expectText),
  plainRequest "textDocument/diagnostic" "DocumentDiagnosticParams"
    (parts [document, may "identifier" Json.expectText,
      may "previousResultId" Json.expectText]),
  plainRequest "workspace/diagnostic" "WorkspaceDiagnosticParams"
    (parts [may "identifier" Json.expectText,
      need "previousResultIds" (Json.expectList anyValue)]),
  positionRequest "textDocument/signatureHelp" "SignatureHelpParams" (may "context" anyValue),
  plainRequest "textDocument/codeAction" "CodeActionParams"
    (parts [document, range, need "context" anyValue]),
  recordRequest "codeAction/resolve" "CodeAction" (need "title" Json.expectText),
  plainRequest "textDocument/documentColor" "DocumentColorParams" document,
  plainRequest "textDocument/colorPresentation" "ColorPresentationParams"
    (parts [document, need "color" anyValue, range]),
  plainRequest "textDocument/formatting" "DocumentFormattingParams" (parts [document, layout]),
  plainRequest "textDocument/rangeFormatting" "DocumentRangeFormattingParams"
    (parts [document, range, layout]),
  positionRequest "textDocument/onTypeFormatting" "DocumentOnTypeFormattingParams"
    (parts [need "ch" Json.expectText, layout]),
  positionRequest "textDocument/rename" "RenameParams" (need "newName" Json.expectText),
  recordRequest "textDocument/prepareRename" "TextDocumentPositionParams"
    ((fun _ => ()) <$> documentPosition),
  positionRequest "textDocument/linkedEditingRange" "LinkedEditingRangeParams" (pure ()),
  plainRequest "workspace/symbol" "WorkspaceSymbolParams" (need "query" Json.expectText),
  recordRequest "workspaceSymbol/resolve" "WorkspaceSymbol" (need "name" Json.expectText),
  recordRequest "textDocument/willSaveWaitUntil" "WillSaveTextDocumentParams"
    (parts [document, need "reason" Json.expectInt32]),
  recordRequest "workspace/willCreateFiles" "CreateFilesParams" (fileList "FileCreate" ["uri"]),
  recordRequest "workspace/willRenameFiles" "RenameFilesParams"
    (fileList "FileRename" ["oldUri", "newUri"]),
  recordRequest "workspace/willDeleteFiles" "DeleteFilesParams" (fileList "FileDelete" ["uri"])]

/-- The notifications that the server does not implement. Nothing depends on their parameters. -/
def unsupportedEvents : List Method :=
  ["textDocument/willSave", "workspace/didChangeWorkspaceFolders",
    "workspace/didChangeWatchedFiles", "workspace/didCreateFiles", "workspace/didRenameFiles",
    "workspace/didDeleteFiles"].map fun name => event name anyValue fun _ => .unsupported

/-- All methods. -/
def all : List Method :=
  supported ++ unsupportedRequests ++ unsupportedEvents

/-- The method of a name. -/
def find? (name : String) : Option Method :=
  all.find? (·.name == name)

end Method

end EditorBridge.Rpc
