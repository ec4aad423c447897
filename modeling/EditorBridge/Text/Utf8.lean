/-!
# UTF-8

Characters as bytes and back. A byte string is read as a sequence of parts: a character, or a
maximal run of bytes that begins a character but cannot be completed. Reading never fails; the
strict reading accepts exactly the strings whose parts are all characters, and the lossy one puts
the replacement character in place of every other part.
-/

namespace EditorBridge.Text

/-- Bytes, as paths, files and the output of programs hold them. -/
abbrev Bytes := List UInt8

namespace Utf8

/-- The UTF-8 bytes of a sequence of characters. -/
def encode (chars : List Char) : Bytes :=
  chars.flatMap String.utf8EncodeChar

/-- What a character that has begun still needs. -/
structure Pending where
  /-- The least byte that continues it. -/
  low : UInt8
  /-- The greatest byte that continues it. -/
  high : UInt8
  /-- How many bytes follow the next one. -/
  more : Nat
  /-- The bits of the code point read so far. -/
  bits : Nat

/-- The parts read so far, the last one first, and the character that has begun. -/
structure Reader where
  /-- The character whose first bytes have been read. -/
  pending : Option Pending
  /-- Characters, and `none` for every run of bytes that is no character. -/
  parts : List (Option Char)

/-- Read a byte with no character begun. -/
def Reader.start (parts : List (Option Char)) (byte : UInt8) : Reader :=
  let begun (low high : UInt8) (more : Nat) (mask : Nat) : Reader :=
    ⟨some ⟨low, high, more, byte.toNat % mask⟩, parts⟩
  if byte < 0x80 then ⟨none, some (Char.ofNat byte.toNat) :: parts⟩
  else if byte < 0xc2 then ⟨none, none :: parts⟩
  else if byte < 0xe0 then begun 0x80 0xbf 0 32
  else if byte = 0xe0 then begun 0xa0 0xbf 1 16
  else if byte = 0xed then begun 0x80 0x9f 1 16
  else if byte < 0xf0 then begun 0x80 0xbf 1 16
  else if byte = 0xf0 then begun 0x90 0xbf 2 8
  else if byte < 0xf4 then begun 0x80 0xbf 2 8
  else if byte = 0xf4 then begun 0x80 0x8f 2 8
  else ⟨none, none :: parts⟩

/-- Read the next byte. One that cannot continue the character begun before it ends that part and
begins the next. -/
def Reader.step (reader : Reader) (byte : UInt8) : Reader :=
  match reader.pending with
  | none => .start reader.parts byte
  | some pending =>
    if pending.low ≤ byte ∧ byte ≤ pending.high then
      let bits := pending.bits * 64 + byte.toNat % 64
      match pending.more with
      | 0 => ⟨none, some (Char.ofNat bits) :: reader.parts⟩
      | more + 1 => ⟨some ⟨0x80, 0xbf, more, bits⟩, reader.parts⟩
    else .start (none :: reader.parts) byte

/-- All parts in order. A character that is still incomplete at the end is a part of its own. -/
def Reader.finish (reader : Reader) : List (Option Char) :=
  match reader.pending with
  | none => reader.parts.reverse
  | some _ => (none :: reader.parts).reverse

/-- The parts of a byte string. -/
def parts (bytes : Bytes) : List (Option Char) :=
  (bytes.foldl Reader.step ⟨none, []⟩).finish

/-- The characters of a byte string that is UTF-8. -/
def decode? (bytes : Bytes) : Option (List Char) :=
  let found := parts bytes
  if found.all Option.isSome then some (found.filterMap id) else none

/-- The characters of a byte string, with U+FFFD in place of every part that is none. -/
def decodeLossy (bytes : Bytes) : List Char :=
  (parts bytes).map (·.getD '\ufffd')

end Utf8

/-- The bytes of a text. -/
def toBytes (text : String) : Bytes :=
  Utf8.encode text.toList

/-- The text that a byte string holds, each invalid part replaced by U+FFFD. -/
def ofBytesLossy (bytes : Bytes) : String :=
  String.ofList (Utf8.decodeLossy bytes)

/-- The text that a byte string holds, if it is UTF-8. -/
def ofBytes? (bytes : Bytes) : Option String :=
  (Utf8.decode? bytes).map String.ofList

end EditorBridge.Text
