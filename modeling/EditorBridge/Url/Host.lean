import EditorBridge.Url.Basic
import EditorBridge.Url.Encoding
import EditorBridge.Url.Punycode
import EditorBridge.Word

/-!
# Hosts

The host of a URL: a domain name, an address of four or of sixteen bytes, or, outside the special
schemes, any text without the marks that URLs are made of.
-/

namespace EditorBridge.Url

/-- Why a text is no URL. -/
inductive ParseError where
  /-- There is no scheme. -/
  | noScheme
  /-- A host is missing. -/
  | emptyHost
  /-- The port is no number of 16 bits. -/
  | invalidPort
  /-- An address of four bytes is malformed. -/
  | invalidIpv4
  /-- An address of sixteen bytes is malformed. -/
  | invalidIpv6
  /-- A host outside the special schemes holds a mark. -/
  | invalidDomainCharacter
  /-- A domain name holds what it may not. -/
  | invalidDomain
deriving DecidableEq, Repr

/-- The words for an error. -/
def ParseError.message : ParseError → String
  | .noScheme => "relative URL without a base"
  | .emptyHost => "empty host"
  | .invalidPort => "invalid port number"
  | .invalidIpv4 => "invalid IPv4 address"
  | .invalidIpv6 => "invalid IPv6 address"
  | .invalidDomainCharacter => "invalid domain character"
  | .invalidDomain => "invalid international domain name"

namespace Host

/-- Characters cut at a separator. -/
def cut (separator : Char) : List Char → List (List Char)
  | [] => [[]]
  | c :: rest =>
    if c = separator then [] :: cut separator rest
    else
      match cut separator rest with
      | [] => [[c]]
      | part :: parts => (c :: part) :: parts

/-! ### Addresses of four bytes -/

/-- A part of an address: decimal, octal after `0`, hexadecimal after `0x`. -/
def ipv4Part? (part : List Char) : Option Nat :=
  let digits (base : Nat) (cs : List Char) : Option Nat :=
    cs.foldlM (fun n c => do
      let d ← hexValue? c
      if d < base then some (n * base + d) else none) 0
  match part with
  | [] => none
  | '0' :: 'x' :: rest | '0' :: 'X' :: rest => digits 16 rest
  | '0' :: rest => digits 8 rest
  | rest => digits 10 rest

/-- The parts of an address, with a dot allowed at the end. -/
def ipv4Parts (domain : List Char) : List (List Char) :=
  let parts := cut '.' domain
  if parts.length > 1 ∧ parts.getLast? = some [] then parts.dropLast else parts

/-- Whether a domain name has to be an address because its last part is a number. -/
def endsInNumber (domain : List Char) : Bool :=
  match (ipv4Parts domain).getLast? with
  | none => false
  | some last =>
    (!last.isEmpty && last.all Char.isDigit) ||
      match last with
      | '0' :: 'x' :: rest | '0' :: 'X' :: rest => rest.all fun c => (hexValue? c).isSome
      | _ => false

/-- The address that a domain name is, as a number. The last part fills all bytes that are left. -/
def ipv4? (domain : List Char) : Option Nat := do
  let parts := ipv4Parts domain
  if parts.length > 4 then none
  let numbers ← parts.mapM ipv4Part?
  let last ← numbers.getLast?
  let before := numbers.dropLast
  if before.any (· > 255) then none
  if Word.count (8 * (5 - numbers.length)) ≤ last then none
  let high := (List.range before.length).map fun i => before.getD i 0 * Word.count (8 * (3 - i))
  return high.foldl (· + ·) last

/-- The text of an address. -/
def ipv4Text (address : Nat) : String :=
  ".".intercalate ([3, 2, 1, 0].map fun i => toString (address / Word.count (8 * i) % 256))

/-! ### Addresses of sixteen bytes -/

/-- One group of hexadecimal digits. -/
def group? (part : List Char) : Option Nat :=
  if part.isEmpty || part.length > 4 then none
  else part.foldlM (fun n c => (hexValue? c).map (n * 16 + ·)) 0

/-- Four decimal bytes at the end of an address, as two groups. -/
def tail? (part : List Char) : Option (List Nat) := do
  let parts := cut '.' part
  if parts.length ≠ 4 then none
  let bytes ← parts.mapM fun digits => do
    if digits.isEmpty || !digits.all Char.isDigit then none
    if digits.length > 1 ∧ digits.head? = some '0' then none
    let value := digits.foldl (fun n c => n * 10 + (c.toNat - '0'.toNat)) 0
    if value > 255 then none else some value
  match bytes with
  | [a, b, c, d] => return [a * 256 + b, c * 256 + d]
  | _ => none

/-- The groups between colons; the last part may be four decimal bytes. -/
def groups? (parts : List (List Char)) : Option (List Nat) :=
  match parts with
  | [] => some []
  | [last] => if last.contains '.' then tail? last else (group? last).map ([·])
  | part :: rest => do return (← group? part) :: (← groups? rest)

/-- Where two colons in a row stand for groups of zeros, the texts before and after them. -/
def gap? : List Char → Option (List Char × List Char)
  | ':' :: ':' :: rest => some ([], rest)
  | c :: rest => (gap? rest).map fun (before, after) => (c :: before, after)
  | [] => none

/-- The groups of a part of an address, which may be empty. -/
def groupsOf? (text : List Char) : Option (List Nat) :=
  if text.isEmpty then some [] else groups? (cut ':' text)

/-- The eight groups that a text between brackets is. -/
def ipv6? (text : List Char) : Option (List Nat) := do
  match gap? text with
  | none =>
    let groups ← groups? (cut ':' text)
    if groups.length = 8 then some groups else none
  | some (before, after) =>
    if before.contains '.' then none
    let first ← groupsOf? before
    let last ← groupsOf? after
    if first.length + last.length ≤ 7 then
      some (first ++ List.replicate (8 - first.length - last.length) 0 ++ last)
    else none

/-- The first longest run of at least two zero groups, by its start and length. -/
def longestZeros (groups : List Nat) : Option (Nat × Nat) :=
  let runs := (List.range groups.length).map fun i =>
    (i, ((groups.drop i).takeWhile (· = 0)).length)
  let best := runs.foldl (fun best run => if best.2 < run.2 then run else best) (0, 1)
  if 2 ≤ best.2 then some best else none

/-- The text of an address, its longest run of zeros left out. -/
def ipv6Text (groups : List Nat) : String :=
  let write (groups : List Nat) : String :=
    ":".intercalate (groups.map fun n => String.ofList (Nat.toDigits 16 n))
  match longestZeros groups with
  | some (start, length) =>
    "[" ++ write (groups.take start) ++ "::" ++ write (groups.drop (start + length)) ++ "]"
  | none => "[" ++ write groups ++ "]"

/-- The normal form of an address with its brackets. -/
def bracketed (text : List Char) : Except ParseError String :=
  if text.getLast? ≠ some ']' then .error .invalidIpv6
  else
    match ipv6? (text.drop 1).dropLast with
    | some groups => .ok (ipv6Text groups)
    | none => .error .invalidIpv6

/-! ### Domain names -/

/-- The characters that no domain name may hold. -/
def forbidden (c : Char) : Bool :=
  c.toNat ≤ 0x20 || c.toNat = 0x7f ||
    ['#', '/', ':', '<', '>', '?', '@', '[', '\\', ']', '^', '|', '%'].contains c

/-- The small letter of a capital one, in the common alphabets. -/
def lower (c : Char) : Char :=
  let n := c.toNat
  if c.isUpper then c.toLower
  else if (0xc0 ≤ n ∧ n ≤ 0xde ∧ n ≠ 0xd7) ∨ (0x391 ≤ n ∧ n ≤ 0x3ab) ∨ (0x410 ≤ n ∧ n ≤ 0x42f) then
    Char.ofNat (n + 32)
  else if 0x400 ≤ n ∧ n ≤ 0x40f then Char.ofNat (n + 80)
  else if (0x100 ≤ n ∧ n ≤ 0x137 ∧ n ≠ 0x130 ∨ 0x14a ≤ n ∧ n ≤ 0x177 ∨ 0x460 ≤ n ∧ n ≤ 0x481)
      ∧ n % 2 = 0 then
    Char.ofNat (n + 1)
  else if 0xff01 ≤ n ∧ n ≤ 0xff5e then Char.ofNat (n - 0xfee0) |>.toLower
  else c

/-- Characters that cannot be seen. -/
def invisible : List Char := ['\u00ad', '\u200b', '\u2060', '\ufeff']

/-- The characters of a domain name in their usual form: small letters, plain dots, and nothing
that is invisible. -/
def usual (chars : List Char) : List Char :=
  (chars.filter fun c => !invisible.contains c).map fun c =>
    if ['\u3002', '\uff0e', '\uff61'].contains c then '.' else lower c

/-- A label in ASCII. -/
def labelText (label : List Char) : List Char :=
  if label.all (·.toNat < 128) then label
  else ['x', 'n', '-', '-'] ++ Punycode.encode label

/-- The domain name in ASCII. -/
def domain (chars : List Char) : Except ParseError (List Char) := do
  let some decoded := Text.Utf8.decode? (decodePercent chars) | throw .invalidDomain
  let labels := (cut '.' (usual decoded)).map labelText
  let name := ['.'].intercalate labels
  if name.any forbidden then throw .invalidDomain
  return name

/-- The normal form of a host of a special scheme. -/
def special (chars : List Char) : Except ParseError String := do
  if chars.head? = some '[' then bracketed chars
  else
    let name ← domain chars
    if name.isEmpty then throw .emptyHost
    if endsInNumber name then
      match ipv4? name with
      | some address => return ipv4Text address
      | none => throw .invalidIpv4
    return String.ofList name

/-- The marks that a host outside the special schemes may not hold. -/
def marks : List Char :=
  ['\x00', '\t', '\n', '\r', ' ', '#', '/', ':', '<', '>', '?', '@', '[', '\\', ']', '^', '|']

/-- The normal form of a host outside the special schemes. -/
def other (chars : List Char) : Except ParseError String :=
  if chars.head? = some '[' then bracketed chars
  else if chars.any marks.contains then .error .invalidDomainCharacter
  else .ok (encode .controls chars)

end Host

end EditorBridge.Url
