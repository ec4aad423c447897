import EditorBridge.Settings.Editor

/-!
# Layers of settings

Every source of settings is kept apart, so that a change of one never discards another. A layer
wins over those before it: the defaults, a settings file, what the editor pushed last, and the
command line.
-/

namespace EditorBridge.Settings

/-- The sources of settings above the defaults. -/
structure Layers where
  /-- The settings of a file, which are complete. -/
  file : Option Settings := none
  /-- The value an editor pushed. -/
  editor : Option Json := none
  /-- What the command line sets. -/
  overrides : Patch := {}
deriving Inhabited

namespace Layers

/-- The settings below the editor's. -/
def base (layers : Layers) : Settings :=
  layers.file.getD Settings.default

/-- The settings in force, unless the editor's value is of the wrong form. -/
def resolve (layers : Layers) : Except Mismatch Settings := do
  let merged ← match layers.editor with
    | none => pure layers.base
    | some pushed => layers.base.mergeEditor pushed
  return layers.overrides.apply merged

/-- The settings in force; an editor layer of the wrong form is passed over. -/
def resolveLossy (layers : Layers) : Settings :=
  match layers.resolve with
  | .ok settings => settings
  | .error _ => layers.overrides.apply layers.base

/-- The layers with a new value from the editor, if it can be used. -/
def pushEditor (layers : Layers) (pushed : Json) : Except Mismatch Layers := do
  let candidate := { layers with editor := some pushed }
  let _ ← candidate.resolve
  return candidate

end Layers

end EditorBridge.Settings
