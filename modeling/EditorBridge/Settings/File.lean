import EditorBridge.FileSystem
import EditorBridge.Settings.Basic
import EditorBridge.Yaml.Reading

/-!
# Settings files

Settings in a YAML file: a table of which the fields for settings count and all others are passed
over. A workspace can hold such a file under one of four names.
-/

namespace EditorBridge.Settings

open Yaml

/-- The settings of a table's fields: a field may stand only once. -/
def Patch.withField (document : Document) (mark : Mark) (patch : Patch) (name : String)
    (turn : Turn) (items : Items) : Except ReadError Patch :=
  let once {α : Type} (current : Option α) (read : Except ReadError α) : Except ReadError α :=
    if current.isSome then .error (.mismatch (.duplicate name) [] mark) else read
  match name with
  | "compilerPath" => do
    let value ← once patch.compilerPath (document.readText [turn] "a string" items)
    return { patch with compilerPath := some value }
  | "compilerArgs" => do
    let value ← once patch.compilerArgs (document.readTexts [turn] items)
    return { patch with compilerArgs := some value }
  | "autoCompileOnSave" => do
    let value ← once patch.autoCompileOnSave (document.readBool [turn] items)
    return { patch with autoCompileOnSave := some value }
  | _ => .ok patch

/-- The settings in a YAML text; what it does not set has its default. -/
def ofYaml (text : String) : Except ReadError Settings :=
  readDocument text fun document => do
    let patch ← document.readTable "struct ExtensionConfig" (Patch.withField document) {}
    return patch.apply Settings.default

/-- Why a settings file cannot be used. -/
inductive FileError where
  /-- It cannot be read. -/
  | read (path : Path) (cause : SystemError)
  /-- It does not hold settings. -/
  | parse (path : Path) (cause : ReadError)
deriving DecidableEq, Repr

/-- The words for an error. -/
def FileError.message : FileError → String
  | .read path cause =>
    "Failed to read config file " ++ path.display ++ ": " ++ cause.message
  | .parse path cause =>
    "Failed to parse config file " ++ path.display ++ ": " ++ cause.message

/-- The settings of a file. -/
def load (world : World) (path : Path) : Except FileError Settings := do
  let text ← (world.files.readText world.current path).mapError (.read path)
  (ofYaml text).mapError (.parse path)

/-- The names of a workspace's settings file, the one that comes first being preferred. -/
def workspaceNames : List String :=
  [".z-editor.yaml", ".z-editor.yml", "z-editor.yaml", "z-editor.yml"]

/-- The settings of a workspace: those of its first file that can be used. -/
def loadWorkspace (world : World) (root : Path) : Option Settings :=
  workspaceNames.findSome? fun name =>
    let candidate := root.child (.ofText name)
    if world.files.hasEntry world.current candidate then (load world candidate).toOption else none

/-- The settings of a workspace, or the defaults. -/
def loadDefault (world : World) (root : Path) : Settings :=
  (loadWorkspace world root).getD Settings.default

end EditorBridge.Settings
