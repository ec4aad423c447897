import EditorBridge.Json.Expect

/-!
# Settings

What the integration can be told: which compiler to run, with which arguments, and whether to run
it on every save. A patch sets some of the three and leaves the rest.
-/

namespace EditorBridge

/-- The settings in force. -/
structure Settings where
  /-- The command that starts the compiler. -/
  compilerPath : String
  /-- The arguments before the source file. -/
  compilerArgs : List String
  /-- Whether a saved Z file is compiled at once. -/
  autoCompileOnSave : Bool
deriving DecidableEq, Repr

namespace Settings

/-- The settings where nothing is configured. -/
def default : Settings := ⟨"your_compiler", [], false⟩

instance : Inhabited Settings := ⟨default⟩

/-- The settings as named values. -/
def toFields (settings : Settings) : Json.Fields :=
  [("autoCompileOnSave", .bool settings.autoCompileOnSave),
    ("compilerArgs", .ofTexts settings.compilerArgs),
    ("compilerPath", .string settings.compilerPath)]

/-- The settings as a JSON value. -/
def toJson (settings : Settings) : Json :=
  .object settings.toFields

/-- The settings that named values are. What is absent has its default, and unknown names are passed
over. The values are read in the order of their names, so the first of several mismatches is that of
the least name. -/
def ofFields (fields : Json.Fields) : Except Mismatch Settings := do
  let autoCompileOnSave ←
    Json.defaultedField fields "autoCompileOnSave" default.autoCompileOnSave Json.expectBool
  let compilerArgs ← Json.defaultedField fields "compilerArgs" default.compilerArgs
    (Json.expectList Json.expectText)
  let compilerPath ←
    Json.defaultedField fields "compilerPath" default.compilerPath Json.expectText
  return { compilerPath, compilerArgs, autoCompileOnSave }

/-- Some of the settings. -/
structure Patch where
  /-- The compiler, if it is set. -/
  compilerPath : Option String := none
  /-- The arguments, if they are set. -/
  compilerArgs : Option (List String) := none
  /-- The choice to compile on save, if it is set. -/
  autoCompileOnSave : Option Bool := none
deriving DecidableEq, Repr, Inhabited

namespace Patch

/-- Whether nothing is set. -/
def isEmpty (patch : Patch) : Bool :=
  patch.compilerPath.isNone && patch.compilerArgs.isNone && patch.autoCompileOnSave.isNone

/-- The settings with the patch's values in place of their own. -/
def apply (patch : Patch) (settings : Settings) : Settings where
  compilerPath := patch.compilerPath.getD settings.compilerPath
  compilerArgs := patch.compilerArgs.getD settings.compilerArgs
  autoCompileOnSave := patch.autoCompileOnSave.getD settings.autoCompileOnSave

/-- The values that named fields set; null sets nothing and unknown names are passed over. The
fields are read in the order of their names, so the first of several mismatches is that of the
least name. -/
def ofFields (fields : Json.Fields) : Except Mismatch Patch := do
  let autoCompileOnSave ← Json.optionalField fields "autoCompileOnSave" Json.expectBool
  let compilerArgs ←
    Json.optionalField fields "compilerArgs" (Json.expectList Json.expectText)
  let compilerPath ← Json.optionalField fields "compilerPath" Json.expectText
  return { compilerPath, compilerArgs, autoCompileOnSave }

end Patch

end Settings

end EditorBridge
