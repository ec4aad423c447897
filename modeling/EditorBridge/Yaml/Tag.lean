import EditorBridge.Text.Utf8
import EditorBridge.Yaml.Scalar.Quoted

/-!
# Names, tags and directives

A node can be named for later reference, and tagged with the kind of its value. A tag is an address
that may be abbreviated by a handle; directives at the head of a document declare handles.
-/

namespace EditorBridge.Yaml

open Text (Bytes)

/-- The characters of names and handles. -/
def isWord (c : Char) : Bool :=
  ('0' ≤ c && c ≤ '9') || ('a' ≤ c && c ≤ 'z') || ('A' ≤ c && c ≤ 'Z') || c == '_' || c == '-'

/-- The name behind the sign that a rest begins with. -/
def nodeName (activity : Activity) (rest : Rest) : Except Fault (String × Rest) :=
  let start := rest.mark
  let name := (rest.drop 1).takeWhile isWord
  let rest := (rest.drop 1).dropWhile isWord
  let ends := rest.isBlankOrEnd 0 || rest.head?.any "?:,]\x7d%@\x60".toList.contains
  if name.isEmpty || !ends then .error (.during activity start .missingName rest.mark)
  else .ok (String.ofList name, rest)

/-- The address part of a tag or directive. -/
structure AddressContext where
  /-- Whether it is written in full, so that brackets and commas belong to it. -/
  verbatim : Bool
  /-- What is being read. -/
  activity : Activity
  /-- Where that began. -/
  start : Mark

/-- The characters of addresses, other than escaped ones. -/
def isAddressChar (verbatim : Bool) (c : Char) : Bool :=
  isWord c || ";/?:@&=+$.!~*'()".toList.contains c || (verbatim && ",[]".toList.contains c)

/-- How many bytes a character has that begins with the given one. -/
def leadingWidth? (byte : UInt8) : Option Nat :=
  if byte &&& 0x80 = 0 then some 1
  else if byte &&& 0xe0 = 0xc0 then some 2
  else if byte &&& 0xf0 = 0xe0 then some 3
  else if byte &&& 0xf8 = 0xf0 then some 4
  else none

/-- Read an address on. Of an escaped character, some bytes may still be missing. -/
def readAddress (context : AddressContext) (stop : Mark) (address : Bytes) (missing : Nat) :
    List Spot → Except Fault (Bytes × Rest)
  | ⟨'%', mark⟩ :: ⟨high, _⟩ :: ⟨low, _⟩ :: spots =>
    let fault (problem : Problem) : Fault := .during context.activity context.start problem mark
    match hexDigit? high, hexDigit? low with
    | some high, some low =>
      let byte := UInt8.ofNat (high * 16 + low)
      if missing = 0 then
        match leadingWidth? byte with
        | none => .error (fault .badLeadingByte)
        | some width => readAddress context stop (byte :: address) (width - 1) spots
      else if byte &&& 0xc0 = 0x80 then
        readAddress context stop (byte :: address) (missing - 1) spots
      else .error (fault .badTrailingByte)
    | _, _ => .error (fault .badEscapedByte)
  | spots =>
    let rest : Rest := ⟨spots, stop⟩
    if missing ≠ 0 ∨ rest.startsWith '%' then
      .error (.during context.activity context.start .badEscapedByte rest.mark)
    else
      match spots with
      | [] => .ok (address.reverse, rest)
      | ⟨c, _⟩ :: spots =>
        if isAddressChar context.verbatim c then
          readAddress context stop ((Text.toBytes c.toString).reverse ++ address) 0 spots
        else .ok (address.reverse, rest)

/-- The address that a rest begins with. What has been read of it before counts as its beginning,
without the exclamation mark in front. -/
def address (context : AddressContext) (begun : List Char) (rest : Rest) :
    Except Fault (Bytes × Rest) := do
  let (text, after) ←
    readAddress context rest.stop (Text.Utf8.encode begun.tail).reverse 0 rest.spots
  if begun.isEmpty && text.isEmpty then
    throw (.during context.activity context.start .missingAddress after.mark)
  return (text, after)

/-- The handle that a rest begins with: an exclamation mark and letters, closed by another mark or
not. -/
def handle (activity : Activity) (start : Mark) (rest : Rest) : Except Fault (List Char × Rest) :=
  if !rest.startsWith '!' then .error (.during activity start .missingBang rest.mark)
  else
    let name := '!' :: (rest.drop 1).takeWhile isWord
    let rest := (rest.drop 1).dropWhile isWord
    if rest.startsWith '!' then .ok (name ++ ['!'], rest.drop 1) else .ok (name, rest)

/-- Whether a handle is closed by an exclamation mark of its own. -/
def isClosedHandle (handle : List Char) : Bool :=
  1 < handle.length && handle.getLast? == some '!'

/-- A tag as it is written. -/
structure WrittenTag where
  /-- The handle; empty if the address is complete. -/
  handle : String
  /-- The address, or the part of it behind the handle. -/
  address : Bytes
deriving DecidableEq, Repr

/-- The tag that a rest begins with. -/
def writtenTag (inFlow : Bool) (rest : Rest) : Except Fault (WrittenTag × Rest) := do
  let start := rest.mark
  let context : AddressContext := ⟨false, .tagAddress, start⟩
  let (tag, rest) ←
    if rest.char? 1 == some '<' then do
      let (full, rest) ← address { context with verbatim := true } [] (rest.drop 2)
      if !rest.startsWith '>' then throw (.during .tag start .unclosedTag rest.mark)
      pure (⟨"", full⟩, rest.drop 1)
    else do
      let (name, rest) ← handle .tag start rest
      if isClosedHandle name then
        let (ending, rest) ← address context [] rest
        pure (⟨String.ofList name, ending⟩, rest)
      else
        let (ending, rest) ← address context name rest
        pure (if ending.isEmpty then ⟨"", Text.toBytes "!"⟩ else ⟨"!", ending⟩, rest)
  if (inFlow && rest.startsWith ',') || rest.isBlankOrEnd 0 then return (tag, rest)
  else throw (.during .tag start .missingBlankOrBreak rest.mark)

/-- A directive. -/
inductive Directive where
  /-- The version that a document is written for. -/
  | version (major minor : Nat)
  /-- A handle and the address it stands for. -/
  | tag (handle : String) (address : Bytes)
deriving DecidableEq, Repr

/-- The number that a version has at a place. -/
def versionNumber (start : Mark) (rest : Rest) : Except Fault (Nat × Rest) :=
  let digits := rest.takeWhile isDecimal
  if 9 < digits.length then
    .error (.during .versionDirective start .longVersion (rest.drop 9).mark)
  else if digits.isEmpty then .error (.during .versionDirective start .missingVersion rest.mark)
  else .ok (digits.foldl (fun n c => n * 10 + (c.toNat - '0'.toNat)) 0, rest.dropWhile isDecimal)
where
  isDecimal (c : Char) : Bool := '0' ≤ c && c ≤ '9'

/-- The rest of a directive for the version. -/
def versionDirective (start : Mark) (rest : Rest) : Except Fault (Directive × Rest) := do
  let (major, rest) ← versionNumber start rest.dropBlanks
  if !rest.startsWith '.' then throw (.during .versionDirective start .missingPoint rest.mark)
  let (minor, rest) ← versionNumber start (rest.drop 1)
  return (.version major minor, rest)

/-- The rest of a directive for a handle. -/
def tagDirective (start : Mark) (rest : Rest) : Except Fault (Directive × Rest) := do
  let (name, rest) ← handle .directiveHandle start rest.dropBlanks
  if name ≠ ['!'] ∧ ¬ isClosedHandle name then
    throw (.during .directiveHandleEnd start .missingBang rest.mark)
  if !rest.head?.any isBlank then throw (.during .tagDirective start .missingBlank rest.mark)
  let (text, rest) ← address ⟨true, .directiveAddress, start⟩ [] rest.dropBlanks
  if !rest.isBlankOrEnd 0 then
    throw (.during .tagDirective start .missingBlankOrBreak rest.mark)
  return (.tag (String.ofList name) text, rest)

/-- The directive that a rest begins with, where it ends, and what follows its line. -/
def directive (rest : Rest) : Except Fault (Directive × Mark × Rest) := do
  let start := rest.mark
  let name := (rest.drop 1).takeWhile isWord
  let rest := (rest.drop 1).dropWhile isWord
  if name.isEmpty then throw (.during .directive start .missingDirectiveName rest.mark)
  if !rest.isBlankOrEnd 0 then throw (.during .directive start .badDirectiveName rest.mark)
  let (found, rest) ←
    if name = "YAML".toList then versionDirective start rest
    else if name = "TAG".toList then tagDirective start rest
    else throw (.during .directive start .unknownDirective rest.mark)
  let stop := rest.mark
  let rest := rest.dropBlanks.dropComment
  if !rest.isBreakOrEnd 0 then throw (.during .directive start .trailingText rest.mark)
  return (found, stop, rest.dropBreak)

end EditorBridge.Yaml
