import EditorBridge.Documents
import EditorBridge.Settings.Layers

/-!
# State of the server

What the server knows between the editor's messages: the open documents, the layers of settings and
the root of the workspace.
-/

namespace EditorBridge

/-- What the server knows. -/
structure Server where
  /-- The open documents. -/
  documents : Documents := .empty
  /-- The sources of settings. -/
  layers : Settings.Layers := {}
  /-- Whether the settings file was given on the command line, so that none is looked for. -/
  pinned : Bool := false
  /-- The root of the workspace, if the editor announced one. -/
  root : Option Path := none
deriving Inhabited

namespace Server

/-- The server before any message, with the settings of the command line and of a file given
there. -/
def start (overrides : Settings.Patch) (file : Option Settings) : Server where
  layers := { file, overrides }
  pinned := file.isSome

/-- The settings in force. -/
def settings (server : Server) : Settings :=
  server.layers.resolveLossy

/-- The server with other documents. -/
def mapDocuments (change : Documents → Documents) (server : Server) : Server :=
  { server with documents := change server.documents }

/-- The server with settings pushed by the editor. Where they cannot be used nothing changes. -/
def pushSettings (pushed : Json) (server : Server) : Server :=
  match server.layers.pushEditor pushed with
  | .ok layers => { server with layers }
  | .error _ => server

/-- The server with the settings file of a workspace, if there is one; a file given on the command
line stays. -/
def discover (file : Option Settings) (server : Server) : Server :=
  if server.pinned || file.isNone then server
  else { server with layers := { server.layers with file } }

end Server

end EditorBridge
