/-!
# Keywords

The words of the Z language that have a description, and how a described word is shown.
-/

namespace EditorBridge.Hover

/-- A word of the language with its one-line description. -/
structure Keyword where
  /-- The word, a directive with its leading mark. -/
  word : String
  /-- What the word is for. -/
  description : String
deriving DecidableEq, Repr

/-- All described words, in the order in which they are listed. -/
def keywords : List Keyword :=
  [⟨"class", "Define a new class"⟩,
    ⟨"int", "Integer type"⟩,
    ⟨"float", "Floating point number type"⟩,
    ⟨"string", "String type"⟩,
    ⟨"return", "Return a value from a function"⟩,
    ⟨"#import", "Import another file"⟩]

/-- The description of a token that is exactly one of the keywords. -/
def describe? (token : String) : Option String :=
  (keywords.find? (·.word == token)).map (·.description)

/-- The keyword and its description in two columns. -/
def Keyword.row (k : Keyword) : String :=
  k.word ++ String.ofList (List.replicate (10 - k.word.length) ' ') ++ " " ++ k.description

end EditorBridge.Hover
