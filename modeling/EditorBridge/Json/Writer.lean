import EditorBridge.Decimal.Shortest
import EditorBridge.Json.Basic

/-!
# JSON text of a value

Two layouts: on one line without any blanks, and over several lines with two blanks for each level.
-/

namespace EditorBridge.Json

/-- Four hexadecimal digits. -/
def fourHexDigits (n : Nat) : List Char :=
  let digits := Nat.toDigits 16 n
  List.replicate (4 - digits.length) '0' ++ digits

/-- One character of a text value. Only quotes, backslashes and controls are escaped. -/
def writeChar (c : Char) : List Char :=
  match c with
  | '"' => ['\\', '"']
  | '\\' => ['\\', '\\']
  | '\x08' => ['\\', 'b']
  | '\x0c' => ['\\', 'f']
  | '\n' => ['\\', 'n']
  | '\r' => ['\\', 'r']
  | '\t' => ['\\', 't']
  | c => if c.toNat < 32 then '\\' :: 'u' :: fourHexDigits c.toNat else [c]

/-- A text value in double quotes. -/
def writeText (text : String) : String :=
  String.ofList ('"' :: (text.toList.flatMap writeChar ++ ['"']))

/-- An integer in decimal digits, a double in its shortest text. -/
def writeNumber : Number → String
  | .int value => toString value
  | .float bits => Decimal.compactText bits

/-- The words for the values without structure. -/
def writeBool (value : Bool) : String :=
  if value then "true" else "false"

mutual

/-- The value on one line. -/
def write : Json → String
  | .null => "null"
  | .bool value => writeBool value
  | .number value => writeNumber value
  | .string text => writeText text
  | .array items => "[" ++ ",".intercalate (writeItems items) ++ "]"
  | .object fields => "\x7b" ++ ",".intercalate (writeFields fields) ++ "\x7d"

/-- Each item on one line. -/
def writeItems : List Json → List String
  | [] => []
  | item :: rest => write item :: writeItems rest

/-- Each field on one line. -/
def writeFields : List (String × Json) → List String
  | [] => []
  | (key, value) :: rest => (writeText key ++ ":" ++ write value) :: writeFields rest

end

/-- A new line at a level of indentation. -/
def newLine (level : Nat) : String :=
  String.ofList ('\n' :: List.replicate (2 * level) ' ')

/-- Parts between two brackets, each on a line of its own one level further in. -/
def writeBlock (opening closing : String) (level : Nat) (parts : List String) : String :=
  if parts.isEmpty then opening ++ closing
  else opening ++ newLine (level + 1) ++ ("," ++ newLine (level + 1)).intercalate parts
    ++ newLine level ++ closing

mutual

/-- The value over several lines, from a level of indentation on. -/
def pretty (level : Nat) : Json → String
  | .array items => writeBlock "[" "]" level (prettyItems (level + 1) items)
  | .object fields => writeBlock "\x7b" "\x7d" level (prettyFields (level + 1) fields)
  | .null => "null"
  | .bool value => writeBool value
  | .number value => writeNumber value
  | .string text => writeText text

/-- Each item over several lines. -/
def prettyItems (level : Nat) : List Json → List String
  | [] => []
  | item :: rest => pretty level item :: prettyItems level rest

/-- Each field over several lines. -/
def prettyFields (level : Nat) : List (String × Json) → List String
  | [] => []
  | (key, value) :: rest =>
    (writeText key ++ ": " ++ pretty level value) :: prettyFields level rest

end

end EditorBridge.Json
