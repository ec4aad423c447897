/-!
# Punycode

A label of a host name with characters outside ASCII, written in ASCII. The ASCII characters come
first; the others follow as differences of code points in a number system whose thresholds adapt to
the numbers written so far.
-/

namespace EditorBridge.Url.Punycode

/-- The digit of a value below 36. -/
def digit (n : Nat) : Char :=
  if n < 26 then Char.ofNat (0x61 + n) else Char.ofNat (0x30 + n - 26)

/-- The threshold of a digit's place. -/
def threshold (place bias : Nat) : Nat :=
  if place ≤ bias then 1 else min 26 (place - bias)

/-- A number whose digits have thresholds of their own. Every step divides what is left. -/
def number (fuel bias place n : Nat) : List Char :=
  let t := threshold place bias
  match fuel with
  | 0 => [digit n]
  | fuel + 1 =>
    if n < t then [digit n]
    else digit (t + (n - t) % (36 - t)) :: number fuel bias (place + 36) ((n - t) / (36 - t))

/-- Divide a difference until it is small, and count by how much. -/
def shrink (fuel delta places : Nat) : Nat × Nat :=
  match fuel with
  | 0 => (delta, places)
  | fuel + 1 => if 455 < delta then shrink fuel (delta / 35) (places + 36) else (delta, places)

/-- The bias after a difference was written. -/
def adapt (delta points : Nat) (first : Bool) : Nat :=
  let scaled := if first then delta / 700 else delta / 2
  let scaled := scaled + scaled / points
  let (delta, places) := shrink scaled scaled 0
  places + 36 * delta / (delta + 38)

/-- What has been written of a label. -/
structure Writer where
  /-- The text. -/
  output : List Char
  /-- The difference that has gathered. -/
  delta : Nat
  /-- The bias. -/
  bias : Nat
  /-- How many characters are handled. -/
  handled : Nat

/-- Pass a character of the label while the code point `point` is written. -/
def Writer.pass (basic point : Nat) (writer : Writer) (c : Char) : Writer :=
  if c.toNat < point then { writer with delta := writer.delta + 1 }
  else if c.toNat = point then
    { output := writer.output ++ number writer.delta writer.bias 36 writer.delta
      delta := 0
      bias := adapt writer.delta (writer.handled + 1) (writer.handled == basic)
      handled := writer.handled + 1 }
  else writer

/-- Write the code points of a label in increasing order; the last one written was `before`. -/
def points (label : List Char) (basic : Nat) : List Nat → Nat → Writer → Writer
  | [], _, writer => writer
  | point :: rest, before, writer =>
    let writer := { writer with
      delta := writer.delta + (point - before) * (writer.handled + 1) }
    let writer := label.foldl (Writer.pass basic point) writer
    points label basic rest (point + 1) { writer with delta := writer.delta + 1 }

/-- The text of a label. -/
def encode (label : List Char) : List Char :=
  let basic := label.filter (·.toNat < 128)
  let others := ((label.map Char.toNat).filter (128 ≤ ·)).mergeSort.eraseDups
  let mark := if basic.isEmpty then [] else ['-']
  basic ++ mark ++
    (points label basic.length others 128 ⟨[], 0, 72, basic.length⟩).output

end EditorBridge.Url.Punycode
