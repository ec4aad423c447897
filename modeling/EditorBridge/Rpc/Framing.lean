import EditorBridge.Text.Utf8

/-!
# Frames

On a stream every message stands in a frame: lines that give the length of the message in bytes, an
empty line, and the message itself.
-/

namespace EditorBridge.Rpc

open Text (Bytes)

/-- The break between the lines of a frame. -/
def lineBreak : Bytes := [0x0d, 0x0a]

/-- The name of the line that gives the length. -/
def lengthName : String := "Content-Length"

/-- A message in its frame. -/
def frame (body : Bytes) : Bytes :=
  Text.toBytes (lengthName ++ ": " ++ toString body.length) ++ lineBreak ++ lineBreak ++ body

/-- The first line of some bytes, without its break, and what follows it. -/
def splitLine? : Bytes → Option (Bytes × Bytes)
  | [] => none
  | 0x0d :: 0x0a :: rest => some ([], rest)
  | 0x0a :: rest => some ([], rest)
  | b :: rest => (splitLine? rest).map fun (line, rest) => (b :: line, rest)

theorem splitLine?_length {bytes line rest : Bytes} (h : splitLine? bytes = some (line, rest)) :
    rest.length < bytes.length := by
  fun_induction splitLine? bytes generalizing line with
  | case1 => exact absurd h (by simp)
  | case2 r =>
    obtain ⟨_, rfl⟩ := Prod.mk.inj (Option.some.inj h)
    simp only [List.length_cons]
    omega
  | case3 r =>
    obtain ⟨_, rfl⟩ := Prod.mk.inj (Option.some.inj h)
    simp only [List.length_cons]
    omega
  | case4 b r _ _ ih =>
    simp only [Option.map_eq_some_iff, Prod.mk.injEq, Prod.exists] at h
    obtain ⟨l, r', hr, _, rfl⟩ := h
    have := ih hr
    simp only [List.length_cons]
    omega

/-- The number that digits stand for. -/
def number? (digits : List Char) : Option Nat :=
  if digits.isEmpty || !digits.all Char.isDigit then none
  else some (digits.foldl (fun n c => n * 10 + (c.toNat - '0'.toNat)) 0)

/-- The length that a line gives, if it is the line for that. -/
def lengthOf? (line : Bytes) : Option Nat := do
  let text := Text.Utf8.decodeLossy line
  let name := text.takeWhile (· != ':')
  guard (name.map Char.toLower == lengthName.toList.map Char.toLower)
  let value := (text.drop (name.length + 1)).dropWhile (· == ' ')
  number? (value.reverse.dropWhile (· == ' ')).reverse

/-- The length that the lines of a frame give, and what follows the empty line. -/
def header? (length : Option Nat) (bytes : Bytes) : Option (Option Nat × Bytes) :=
  match _h : splitLine? bytes with
  | none => none
  | some ([], rest) => some (length, rest)
  | some (line, rest) => header? ((lengthOf? line).or length) rest
termination_by bytes.length
decreasing_by exact splitLine?_length _h

/-- The first message of a stream, and what follows its frame. -/
def unframe? (bytes : Bytes) : Option (Bytes × Bytes) := do
  let (length, rest) ← header? none bytes
  let length ← length
  guard (length ≤ rest.length)
  return (rest.take length, rest.drop length)

/-- The messages of a stream in their order, at most as many as `fuel`. -/
def unframeAll : Nat → Bytes → List Bytes
  | 0, _ => []
  | fuel + 1, bytes =>
    match unframe? bytes with
    | some (body, rest) => body :: unframeAll fuel rest
    | none => []

end EditorBridge.Rpc
