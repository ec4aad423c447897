import EditorBridge.Settings.Basic

/-!
# Settings pushed by an editor

An editor sends a JSON value: the settings themselves, or an object that holds them under the name
of the language. Null changes nothing.
-/

namespace EditorBridge.Settings

/-- The name under which an editor groups the settings of the language. -/
def sectionName : String := "z"

/-- The part of an editor's value that holds the settings. -/
def sectionOf (pushed : Json) : Json :=
  (pushed.field? sectionName).getD pushed

/-- The settings with an editor's values in place of their own. They are written out as named values,
the editor's are set over them unless they are null, and what comes of it is read back. -/
def mergeEditor (base : Settings) (pushed : Json) : Except Mismatch Settings :=
  match sectionOf pushed with
  | .null => .ok base
  | settings => do
    let upper ← settings.expectMap
    ofFields (upper.overlay base.toFields)

/-- The message for editor settings that cannot be used. -/
def invalidEditorMessage (mismatch : Mismatch) : String :=
  "Invalid editor settings: " ++ mismatch.message

end EditorBridge.Settings
