/-!
# Places in a YAML text

Every character of a text is paired with the place it stands at. Of a carriage return and a line
feed that follow each other only one break is made, so that a break is always one item.
-/

namespace EditorBridge.Yaml

/-- A place in a text; all three numbers count from zero. -/
structure Mark where
  /-- How many characters stand before it. -/
  index : Nat
  /-- How many lines stand before its line. -/
  line : Nat
  /-- How many characters stand before it on its line. -/
  column : Nat
deriving DecidableEq, Repr, Inhabited

namespace Mark

/-- The beginning of a text. -/
def origin : Mark := ⟨0, 0, 0⟩

/-- Whether the mark is in the first column of the first line. -/
def isFirst (mark : Mark) : Bool :=
  mark.line == 0 && mark.column == 0

/-- Whether two marks are at the same place of the same line. -/
def isAt (mark other : Mark) : Bool :=
  mark.line == other.line && mark.column == other.column

/-- The mark for a reader, who counts from one. -/
def display (mark : Mark) : String :=
  "line " ++ toString (mark.line + 1) ++ " column " ++ toString (mark.column + 1)

/-- The mark behind a character of the same line. -/
def next (mark : Mark) : Mark := ⟨mark.index + 1, mark.line, mark.column + 1⟩

/-- The beginning of the next line, behind a break of some characters. -/
def nextLine (mark : Mark) (width : Nat) : Mark := ⟨mark.index + width, mark.line + 1, 0⟩

end Mark

/-- A character at its place. -/
structure Spot where
  /-- The character; for a break other than U+2028 and U+2029 it is the line feed. -/
  char : Char
  /-- Where it stands. -/
  mark : Mark
deriving DecidableEq, Repr

/-- Whether a character ends a line. -/
def isBreak (c : Char) : Bool :=
  c == '\n' || c == '\r' || c == '\u0085' || c == '\u2028' || c == '\u2029'

/-- Whether a character separates words on a line. -/
def isBlank (c : Char) : Bool :=
  c == ' ' || c == '\t'

/-- The character that stands for a break in the text that is read. -/
def breakChar (c : Char) : Char :=
  if c = '\u2028' ∨ c = '\u2029' then c else '\n'

/-- What is left of a text. -/
structure Rest where
  /-- The characters that follow. -/
  spots : List Spot
  /-- Where the text ends. -/
  stop : Mark
deriving Repr

namespace Rest

/-- The characters with their places, from a mark on. -/
def place (mark : Mark) : List Char → Rest
  | [] => ⟨[], mark⟩
  | '\r' :: '\n' :: rest =>
    let after := place (mark.nextLine 2) rest
    { after with spots := ⟨'\n', mark⟩ :: after.spots }
  | c :: rest =>
    let after := place (if isBreak c then mark.nextLine 1 else mark.next) rest
    { after with spots := ⟨if isBreak c then breakChar c else c, mark⟩ :: after.spots }

/-- A whole text. -/
def ofText (text : String) : Rest :=
  place .origin text.toList

/-- Where the rest begins. -/
def mark (rest : Rest) : Mark :=
  match rest.spots with
  | [] => rest.stop
  | spot :: _ => spot.mark

/-- The next character. -/
def head? (rest : Rest) : Option Char :=
  rest.spots.head?.map (·.char)

/-- The character after some others. -/
def char? (rest : Rest) (n : Nat) : Option Char :=
  (rest.spots[n]?).map (·.char)

/-- Whether the next character is the given one. -/
def startsWith (rest : Rest) (c : Char) : Bool :=
  rest.head? == some c

/-- Whether the character after some others is a blank, a break or the end of the text. -/
def isBlankOrEnd (rest : Rest) (n : Nat) : Bool :=
  (rest.char? n).all fun c => isBlank c || isBreak c

/-- Whether the character after some others is a break or the end of the text. -/
def isBreakOrEnd (rest : Rest) (n : Nat) : Bool :=
  (rest.char? n).all isBreak

/-- The rest without its first characters. -/
def drop (rest : Rest) (n : Nat) : Rest :=
  { rest with spots := rest.spots.drop n }

/-- The rest without the longest run of characters of a class. -/
def dropWhile (rest : Rest) (p : Char → Bool) : Rest :=
  { rest with spots := rest.spots.dropWhile (p ·.char) }

/-- The longest run of characters of a class. -/
def takeWhile (rest : Rest) (p : Char → Bool) : List Char :=
  (rest.spots.takeWhile (p ·.char)).map (·.char)

/-- The rest without the blanks it begins with. -/
def dropBlanks (rest : Rest) : Rest :=
  rest.dropWhile isBlank

/-- The rest of which a comment, if it begins with one, is dropped up to the end of its line. -/
def dropComment (rest : Rest) : Rest :=
  if rest.startsWith '#' then rest.dropWhile (!isBreak ·) else rest

/-- The rest without the break it begins with, if there is one. -/
def dropBreak (rest : Rest) : Rest :=
  if rest.head?.any isBreak then rest.drop 1 else rest

/-- Whether three equal characters, and nothing more, stand at the beginning of a line. -/
def isFence (rest : Rest) (c : Char) : Bool :=
  rest.mark.column == 0 && rest.char? 0 == some c && rest.char? 1 == some c
    && rest.char? 2 == some c && rest.isBlankOrEnd 3

/-- Whether a line begins with the mark of a document's start or end. -/
def isDocumentFence (rest : Rest) : Bool :=
  rest.isFence '-' || rest.isFence '.'

end Rest

end EditorBridge.Yaml
