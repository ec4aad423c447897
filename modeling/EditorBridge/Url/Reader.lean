import EditorBridge.Url.Host

/-!
# Reading URLs

The text of a URL cut into its parts, each of which is brought to its normal form. Controls and
blanks around the text and line breaks inside it do not count. The special schemes have a host of
their own form, take a backslash for a slash, and always have a path; files have no port, and a
machine that is left out or called `localhost` is the local one.
-/

namespace EditorBridge.Url

/-- How a scheme is treated. -/
inductive SchemeKind where
  /-- Local and remote files. -/
  | file
  /-- The other schemes with a host of their own form, and their port. -/
  | special (port : Nat)
  /-- All others. -/
  | other
deriving DecidableEq, Repr

/-- The kind of a scheme. -/
def SchemeKind.ofName (scheme : String) : SchemeKind :=
  match scheme with
  | "file" => .file
  | "http" | "ws" => .special 80
  | "https" | "wss" => .special 443
  | "ftp" => .special 21
  | _ => .other

/-- Whether a backslash is a slash and a path is never empty. -/
def SchemeKind.isSpecial (kind : SchemeKind) : Bool :=
  kind != .other

/-- Whether a character can be inside a scheme. -/
def isSchemeChar (c : Char) : Bool :=
  c.isAlphanum || c == '+' || c == '-' || c == '.'

/-- The characters of a URL that count. -/
def significant (text : String) : List Char :=
  let outside (c : Char) : Bool := c.toNat ≤ 0x20
  let inner := ((text.toList.dropWhile outside).reverse.dropWhile outside).reverse
  inner.filter fun c => c ≠ '\t' ∧ c ≠ '\n' ∧ c ≠ '\r'

/-- The scheme in small letters, and what follows its colon. -/
def scheme? (chars : List Char) : Option (String × List Char) :=
  let name := chars.takeWhile isSchemeChar
  match name, chars.drop name.length with
  | first :: _, ':' :: rest =>
    if first.isAlpha then some (String.ofList (name.map Char.toLower), rest) else none
  | _, _ => none

/-- Whether a character ends the path. -/
def endsPath (c : Char) : Bool := c == '?' || c == '#'

/-- Whether a character separates segments. -/
def isSeparator (kind : SchemeKind) (c : Char) : Bool :=
  c == '/' || (kind.isSpecial && c == '\\')

/-- Characters cut into segments. -/
def segmentsOf (kind : SchemeKind) : List Char → List (List Char)
  | [] => [[]]
  | c :: rest =>
    if isSeparator kind c then [] :: segmentsOf kind rest
    else
      match segmentsOf kind rest with
      | [] => [[c]]
      | part :: parts => (c :: part) :: parts

/-- The segments that name the directory they stand in. -/
def hereSegments : List String := [".", "%2e"]

/-- The segments that name the directory above. -/
def aboveSegments : List String := ["..", "%2e%2e", "%2e.", ".%2e"]

/-- Whether a segment begins with a drive letter that nothing else follows. -/
def isDrive (segment : String) : Bool :=
  match segment.toList with
  | letter :: mark :: rest =>
    letter.isAlpha && (mark == ':' || mark == '|') && (rest.isEmpty || rest.head? == some '\\')
  | _ => false

/-- A drive letter by itself, with its colon. -/
def drive? (segment : String) : Option String :=
  match segment.toList with
  | [letter, mark] =>
    if letter.isAlpha && (mark == ':' || mark == '|') then some (String.ofList [letter, ':'])
    else none
  | _ => none

/-- The directories of a path that is being read, the innermost first, and whether a drive letter
at its beginning has taken the place of the host. -/
structure Directories where
  /-- The segments. -/
  segments : List String
  /-- Whether the host is to be left out. -/
  dropsHost : Bool

/-- Go up one directory. A drive letter stays. -/
def Directories.up (directories : Directories) : Directories :=
  match directories.segments with
  | segment :: rest =>
    if isDrive segment then directories else { directories with segments := rest }
  | [] => directories

/-- Take a segment. The last one of a path leaves an empty segment behind where it only names a
directory. -/
def Directories.take (kind : SchemeKind) (directories : Directories) (segment : List Char)
    (last : Bool) : Directories :=
  let written := encode .segment segment
  let lowered := String.ofList (written.toList.map Char.toLower)
  let ended (directories : Directories) : Directories :=
    if last then { directories with segments := "" :: directories.segments } else directories
  if aboveSegments.contains lowered then ended directories.up
  else if hereSegments.contains lowered then ended directories
  else
    match if kind = .file ∧ directories.segments.isEmpty then drive? written else none with
    | some drive => ⟨drive :: directories.segments, true⟩
    | none => { directories with segments := written :: directories.segments }

/-- Take all segments in order. -/
def Directories.takeAll (kind : SchemeKind) (directories : Directories) :
    List (List Char) → Directories
  | [] => directories
  | [segment] => directories.take kind segment true
  | segment :: rest => Directories.takeAll kind (directories.take kind segment false) rest

/-- The segments of a path after its first slash, and whether the host is to be left out. For files
the empty segments at the beginning are dropped. -/
def pathSegments (kind : SchemeKind) (chars : List Char) : List String × Bool :=
  let taken := Directories.takeAll kind ⟨[], false⟩ (segmentsOf kind chars)
  let segments := taken.segments.reverse
  let segments := if kind = .file then
      let kept := segments.dropWhile String.isEmpty
      if kept.isEmpty then [""] else kept
    else segments
  (segments, taken.dropsHost)

/-- A path without the one separator it may begin with. -/
def afterSeparator (kind : SchemeKind) (chars : List Char) : List Char :=
  match chars with
  | c :: rest => if isSeparator kind c then rest else chars
  | [] => []

/-- The query and the fragment that end a URL. -/
def queryAndFragment (kind : SchemeKind) (chars : List Char) : Option String × Option String :=
  let fragment? (chars : List Char) : Option String :=
    match chars with
    | '#' :: rest => some (encode .fragment rest)
    | _ => none
  match chars with
  | '?' :: rest =>
    let query := rest.takeWhile (· ≠ '#')
    (some (encode (if kind.isSpecial then .specialQuery else .query) query),
      fragment? (rest.drop query.length))
  | chars => (none, fragment? chars)

/-- The parts of a URL after its scheme. -/
structure Parts where
  /-- The machine. -/
  authority : Option Authority
  /-- The path. -/
  route : Route

/-! ### The authority -/

/-- The port after the host. -/
def port? (kind : SchemeKind) (chars : List Char) : Except ParseError (Option Nat) :=
  match chars with
  | ':' :: digits =>
    if !digits.all Char.isDigit then .error .invalidPort
    else
      let port := digits.foldl (fun n c => n * 10 + (c.toNat - '0'.toNat)) 0
      if 65535 < port then .error .invalidPort
      else if digits.isEmpty ∨ kind = .special port then .ok none
      else .ok (some port)
  | _ => .ok none

/-- The characters of a host: those before a colon outside of brackets. -/
def hostChars (inBrackets : Bool) : List Char → List Char
  | [] => []
  | c :: rest =>
    if c = ':' ∧ !inBrackets then []
    else c :: hostChars (c = '[' || (inBrackets && c ≠ ']')) rest

/-- The position of the last `@`, by what stands before and after it. -/
def splitLastAt (chars : List Char) : Option (List Char × List Char) :=
  let after := (chars.reverse.takeWhile (· ≠ '@')).reverse
  if after.length = chars.length then none
  else some (chars.take (chars.length - after.length - 1), after)

/-- User name and password as they are written, with the mark after them. -/
def userInfoText (chars : List Char) : String :=
  let name := chars.takeWhile (· ≠ ':')
  let password := chars.drop (name.length + 1)
  let written := encode .userInfo name ++
    (if password.isEmpty then "" else ":" ++ encode .userInfo password)
  if written.isEmpty then "" else written ++ "@"

/-- The authority that stands between two slashes and the path; `more` says whether anything
follows it. -/
def readAuthority (kind : SchemeKind) (chars : List Char) (more : Bool) :
    Except ParseError Authority := do
  let (user, rest) := (splitLastAt chars).getD ([], chars)
  if rest.isEmpty ∧ (splitLastAt chars).isSome ∧ user.isEmpty ∧ more then throw .emptyHost
  let written := userInfoText user
  let name := hostChars false rest
  let after := rest.drop name.length
  if name.isEmpty ∧ kind.isSpecial then throw .emptyHost
  let host ← if kind.isSpecial then Host.special name else Host.other name
  if host.isEmpty ∧ !after.isEmpty then throw .emptyHost
  let port ← port? kind after
  if host.isEmpty ∧ !written.isEmpty then throw .emptyHost
  return ⟨written, host, port⟩

/-- The host of a file; the local machine has none. -/
def fileHost (chars : List Char) : Except ParseError String := do
  if chars.isEmpty then return ""
  let host ← Host.special chars
  return if host = "localhost" then "" else host

/-! ### The parts after the scheme -/

/-- The parts of a URL whose two slashes have been read; `more` says whether a query or a fragment
follows them. -/
def afterSlashes (kind : SchemeKind) (chars : List Char) (more : Bool) :
    Except ParseError Parts := do
  let place := chars.takeWhile (!isSeparator kind ·)
  let rest := chars.drop place.length
  let found ← readAuthority kind place (more || !rest.isEmpty)
  if !kind.isSpecial ∧ rest.isEmpty then return ⟨some found, .segments []⟩
  return ⟨some found, .segments (pathSegments kind (afterSeparator kind rest)).1⟩

/-- The parts of a file's URL. -/
def fileParts (chars : List Char) : Except ParseError Parts := do
  let here (host : String) (path : List Char) : Parts :=
    let (segments, dropsHost) := pathSegments .file (afterSeparator .file path)
    ⟨some ⟨"", if dropsHost then "" else host, none⟩, .segments segments⟩
  match chars with
  | first :: second :: rest =>
    if isSeparator .file first && isSeparator .file second then
      let place := rest.takeWhile fun c => !isSeparator .file c
      if (drive? (String.ofList place)).isSome then return here "" rest
      else
        let host ← fileHost place
        return here host (rest.drop place.length)
    else return here "" chars
  | _ => return here "" chars

/-- The parts of a URL of none of the special schemes. -/
def otherParts (chars : List Char) (more : Bool) : Except ParseError Parts :=
  match chars with
  | '/' :: '/' :: rest => afterSlashes .other rest more
  | '/' :: rest => .ok ⟨none, .segments (pathSegments .other rest).1⟩
  | chars => .ok ⟨none, .plain (encode .controls chars)⟩

/-- The URL that a text is. -/
def parse (text : String) : Except ParseError Url := do
  let some (scheme, rest) := scheme? (significant text) | throw .noScheme
  let kind := SchemeKind.ofName scheme
  let body := rest.takeWhile (!endsPath ·)
  let tail := rest.drop body.length
  let parts ← match kind with
    | .file => fileParts body
    | .special _ => afterSlashes kind (body.dropWhile (isSeparator kind)) (!tail.isEmpty)
    | .other => otherParts body (!tail.isEmpty)
  let (query, fragment) := queryAndFragment kind tail
  return ⟨scheme, parts.authority, parts.route, query, fragment⟩

end EditorBridge.Url
