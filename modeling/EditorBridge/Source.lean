import EditorBridge.Path

/-!
# Source documents

A document as a trigger sees it: its path, and the language its editor has announced. The language
decides whether it is a Z file; without one the extension of the path does.
-/

namespace EditorBridge

open Text (Bytes)

/-- A document that may be compiled. -/
structure Source where
  /-- Where it is stored. -/
  path : Path
  /-- The language announced by the editor. -/
  languageId : Option String
deriving DecidableEq, Repr

/-- The identifier of the language. -/
def languageName : String := "z"

/-- The extensions of Z files, without their dots. -/
def fileExtensions : List Bytes := [[0x7a]]

/-- A byte with an ASCII capital made small. -/
def lowerByte (b : UInt8) : UInt8 :=
  if 0x41 ≤ b ∧ b ≤ 0x5a then b + 0x20 else b

/-- Whether the path ends in an extension of Z files, in whatever case. -/
def Path.hasZExtension (path : Path) : Bool :=
  path.extension?.any fun ending => fileExtensions.contains (ending.map lowerByte)

/-- Whether the document is a Z file. -/
def Source.isZ (source : Source) : Bool :=
  match source.languageId with
  | some language => language == languageName
  | none => source.path.hasZExtension

end EditorBridge
