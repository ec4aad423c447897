import EditorBridge.Text.Utf8

/-!
# Percent encoding

Which characters have to be escaped in each part of a URL, and how that is done. Controls and
everything outside ASCII is escaped everywhere.
-/

namespace EditorBridge.Url

/-- The characters that are escaped in one part of a URL, besides those that always are. -/
structure EscapeSet where
  /-- The printing ASCII characters among them. -/
  chars : List Char

namespace EscapeSet

/-- Nothing but what is escaped everywhere. -/
def controls : EscapeSet := ⟨[]⟩

/-- The set for fragments. -/
def fragment : EscapeSet := ⟨[' ', '"', '<', '>', '\x60']⟩

/-- The set for path segments. -/
def segment : EscapeSet := ⟨fragment.chars ++ ['#', '?', '\x7b', '\x7d']⟩

/-- The set for user names and passwords. -/
def userInfo : EscapeSet := ⟨segment.chars ++ ['/', ':', ';', '=', '@', '[', '\\', ']', '^', '|']⟩

/-- The set for queries. -/
def query : EscapeSet := ⟨[' ', '"', '#', '<', '>']⟩

/-- The set for queries of the special schemes. -/
def specialQuery : EscapeSet := ⟨query.chars ++ ['\'']⟩

/-- Whether a character is escaped. -/
def escapes (set : EscapeSet) (c : Char) : Bool :=
  c.toNat < 0x20 || 0x7f ≤ c.toNat || set.chars.contains c

end EscapeSet

/-- A hexadecimal digit in upper case. -/
def upperHexDigit (n : Nat) : Char :=
  (Nat.digitChar n).toUpper

/-- The escape of a byte. -/
def escapeByte (b : UInt8) : List Char :=
  ['%', upperHexDigit (b.toNat / 16), upperHexDigit (b.toNat % 16)]

/-- A character as it is written in a part of a URL. -/
def encodeChar (set : EscapeSet) (c : Char) : List Char :=
  if set.escapes c then (Text.Utf8.encode [c]).flatMap escapeByte else [c]

/-- Characters as they are written in a part of a URL. -/
def encode (set : EscapeSet) (chars : List Char) : String :=
  String.ofList (chars.flatMap (encodeChar set))

end EditorBridge.Url
