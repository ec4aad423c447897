import EditorBridge.Hover.Keyword
import EditorBridge.Hover.Word

/-!
# Hover answers

What is shown for a keyword under the cursor.
-/

namespace EditorBridge.Hover

/-- A described token, with its range if it was found in a text. -/
structure Info where
  /-- The keyword. -/
  token : String
  /-- Its description. -/
  description : String
  /-- Where it stands. -/
  range : Option WordRange
deriving DecidableEq, Repr

/-- The answer for a token by itself. -/
def Info.ofToken? (token : String) : Option Info :=
  (describe? token).map fun description => ⟨token, description, none⟩

/-- The token as a block of code, then the description. -/
def Info.markdown (info : Info) : String :=
  "\x60\x60\x60z\n" ++ info.token ++ "\n\x60\x60\x60\n" ++ info.description

/-- Token and description on one line. -/
def Info.plain (info : Info) : String :=
  info.token ++ ": " ++ info.description

/-- The answer at a position of a text. -/
def infoAt? (source : String) (position : Position) : Option Info := do
  let (token, range) ← wordAt? source position
  let info ← Info.ofToken? token
  return { info with range := some range }

end EditorBridge.Hover
