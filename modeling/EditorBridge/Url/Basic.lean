import EditorBridge.Path

/-!
# URLs

A URL in its parsed form, its text, and the local file it names. Two URLs are the same if their
texts are.
-/

namespace EditorBridge

open Text (Bytes)

/-- The part of a URL that names a machine. -/
structure Url.Authority where
  /-- User name and password as they are written, with the mark after them. -/
  userInfo : String
  /-- The host in its normal form. -/
  host : String
  /-- The port, unless it is the scheme's own. -/
  port : Option Nat
deriving DecidableEq, Repr

/-- Where a URL leads within its scheme and machine. -/
inductive Url.Route where
  /-- Segments, each after a slash. -/
  | segments (segments : List String)
  /-- A text without structure. -/
  | plain (text : String)
deriving DecidableEq, Repr

/-- A parsed URL. -/
structure Url where
  /-- The scheme in small letters. -/
  scheme : String
  /-- The machine. -/
  authority : Option Url.Authority
  /-- The path. -/
  route : Url.Route
  /-- What follows a question mark. -/
  query : Option String
  /-- What follows a number sign. -/
  fragment : Option String
deriving DecidableEq, Repr

namespace Url

/-- The text of an authority. -/
def Authority.text (authority : Authority) : String :=
  authority.userInfo ++ authority.host ++
    match authority.port with
    | some port => ":" ++ toString port
    | none => ""

/-- The text of a path. -/
def Route.text : Route → String
  | .segments parts => String.join (parts.map ("/" ++ ·))
  | .plain text => text

/-- Whether a path without an authority could be taken for one. -/
def Route.looksLikeAuthority : Route → Bool
  | .segments ("" :: _ :: _) => true
  | _ => false

/-- A part of a URL after its mark. -/
def marked (mark : String) : Option String → String
  | some text => mark ++ text
  | none => ""

/-- The text of a URL. -/
def text (url : Url) : String :=
  let place := match url.authority with
    | some authority => "//" ++ authority.text
    | none => if url.route.looksLikeAuthority then "/." else ""
  url.scheme ++ ":" ++ place ++ url.route.text ++ marked "?" url.query ++ marked "#" url.fragment

/-- The value of a hexadecimal digit. -/
def hexValue? (c : Char) : Option Nat :=
  if '0' ≤ c ∧ c ≤ '9' then some (c.toNat - '0'.toNat)
  else if 'a' ≤ c ∧ c ≤ 'f' then some (c.toNat - 'a'.toNat + 10)
  else if 'A' ≤ c ∧ c ≤ 'F' then some (c.toNat - 'A'.toNat + 10)
  else none

/-- The bytes of a text with its percent escapes replaced. What is no escape stays. -/
def decodePercent : List Char → Bytes
  | [] => []
  | [c] => Text.Utf8.encode [c]
  | [c, d] => Text.Utf8.encode [c, d]
  | c :: d :: e :: rest =>
    match c, hexValue? d, hexValue? e with
    | '%', some high, some low => (high * 16 + low).toUInt8 :: decodePercent rest
    | _, _, _ => Text.Utf8.encode [c] ++ decodePercent (d :: e :: rest)

/-- Whether bytes end in a drive letter. -/
def endsInDrive (bytes : Bytes) : Bool :=
  match bytes.reverse with
  | mark :: letter :: _ :: _ =>
    (mark == 0x3a || mark == 0x7c) && (Char.ofNat letter.toNat).isAlpha && letter < 128
  | _ => false

/-- The path of the local file that a URL names, if it names one. A drive letter at the end is
taken for a directory. -/
def filePath? (url : Url) : Option Path :=
  let isLocal := match url.authority with
    | none => true
    | some authority => authority.host == "" || authority.host == "localhost"
  match url.route with
  | .segments (first :: rest) =>
    if isLocal then
      let bytes := (first :: rest).flatMap fun segment =>
        Path.slash :: decodePercent segment.toList
      some ⟨if endsInDrive bytes then bytes ++ [Path.slash] else bytes⟩
    else none
  | _ => none

end Url

end EditorBridge
