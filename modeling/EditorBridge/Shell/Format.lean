import EditorBridge.Shell.Arithmetic
import EditorBridge.Word

/-!
# Formatted output

What `printf` and `echo` write. A format is used again as long as arguments are left; missing
arguments are empty.
-/

namespace EditorBridge.Shell

open Text (Bytes)

namespace Format

/-- The value of an octal digit. -/
def octal? (b : UInt8) : Option Nat :=
  if 0x30 ≤ b ∧ b ≤ 0x37 then some (b.toNat - 0x30) else none

/-- The number that up to a count of octal digits are, and what follows them. -/
def octalNumber (count : Nat) (value : Nat) : Bytes → Nat × Bytes
  | [] => (value, [])
  | b :: rest =>
    match count, octal? b with
    | count + 1, some digit => octalNumber count (value * 8 + digit) rest
    | _, _ => (value, b :: rest)

/-- The bytes of a single-letter escape. -/
def letterEscape? (b : UInt8) : Option UInt8 :=
  [(0x5c, 0x5c), (0x61, 7), (0x62, 8), (0x66, 12), (0x6e, 10), (0x72, 13), (0x74, 9),
    (0x76, 11)].lookup b

/-- What an escape after its backslash stands for and what follows it. In an argument, octal
escapes begin with a zero. -/
def escape (inArgument : Bool) (bytes : Bytes) : Bytes × Bytes :=
  match bytes with
  | [] => ([0x5c], [])
  | b :: rest =>
    match letterEscape? b with
    | some meant => ([meant], rest)
    | none =>
      if inArgument then
        if b = 0x30 then
          let (value, rest) := octalNumber 3 0 rest
          ([value.toUInt8], rest)
        else ([0x5c, b], rest)
      else if (octal? b).isSome then
        let (value, rest) := octalNumber 3 0 bytes
        ([value.toUInt8], rest)
      else ([0x5c, b], rest)

/-- The bytes of an argument with its escapes replaced, and whether output ends there. -/
def expandArgument (fuel : Nat) (bytes : Bytes) : Bytes × Bool :=
  match fuel, bytes with
  | 0, _ | _, [] => ([], false)
  | _, 0x5c :: 0x63 :: _ => ([], true)
  | fuel + 1, 0x5c :: rest =>
    let (meant, rest) := escape true rest
    let (more, stop) := expandArgument fuel rest
    (meant ++ more, stop)
  | fuel + 1, b :: rest =>
    let (more, stop) := expandArgument fuel rest
    (b :: more, stop)

/-- A conversion of a format. -/
structure Conversion where
  /-- Fill up on the right. -/
  left : Bool := false
  /-- Write a plus sign. -/
  plus : Bool := false
  /-- Write a blank for a plus sign. -/
  blank : Bool := false
  /-- Fill up with zeros. -/
  zero : Bool := false
  /-- Write the mark of the base. -/
  alternate : Bool := false
  /-- The least width. -/
  width : Nat := 0
  /-- The precision. -/
  precision : Option Nat := none

/-- A fault of a format or an argument. -/
structure Complaint where
  /-- The words for it. -/
  text : Bytes
  /-- Whether the format itself is at fault. -/
  fatal : Bool

/-- What has been formatted so far. -/
structure Progress where
  /-- The parts of the output, the last one first. -/
  output : List Bytes
  /-- The arguments that are left. -/
  arguments : List Bytes
  /-- Whether any argument has been asked for. -/
  consumed : Bool
  /-- The complaints, the last one first. -/
  complaints : List Complaint
  /-- Whether output has been ended. -/
  stopped : Bool

/-- Take the next argument. -/
def Progress.argument (progress : Progress) : Bytes × Progress :=
  match progress.arguments with
  | [] => ([], { progress with consumed := true })
  | a :: rest => (a, { progress with arguments := rest, consumed := true })

/-- Add output. -/
def Progress.emit (progress : Progress) (bytes : Bytes) : Progress :=
  { progress with output := bytes :: progress.output }

/-- Bytes filled up to a width. -/
def pad (conversion : Conversion) (fill : UInt8) (bytes : Bytes) : Bytes :=
  let missing := List.replicate (conversion.width - bytes.length) fill
  if conversion.left then bytes ++ missing else missing ++ bytes

/-- A byte string as characters of the same numbers. -/
def chars (bytes : Bytes) : List Char := bytes.map fun b => Char.ofNat b.toNat

/-- The number that an argument is, and whether it is one. A quote stands for the code of the
character after it. -/
def numberOf (bytes : Bytes) : Int × Bool :=
  match chars bytes with
  | [] => (0, true)
  | '"' :: c :: _ | '\'' :: c :: _ => (c.toNat, true)
  | cs =>
    let (negative, digits) := match Arithmetic.skipSpace cs with
      | '-' :: rest => (true, rest)
      | '+' :: rest => (false, rest)
      | rest => (false, rest)
    let run := digits.takeWhile Char.isDigit
    match digits with
    | '0' :: 'x' :: rest =>
      let hex := rest.takeWhile fun c => c.isDigit || ('a' ≤ c && c ≤ 'f') || ('A' ≤ c && c ≤ 'F')
      let value : Int := Arithmetic.digitsValue 16 hex
      (if negative then -value else value, !hex.isEmpty && hex.length == rest.length)
    | _ =>
      let isOctal := run.head? = some '0'
      let run := if isOctal then run.takeWhile (· < '8') else run
      let value : Int := Arithmetic.digitsValue (if isOctal then 8 else 10) run
      (if negative then -value else value, !run.isEmpty && run.length == digits.length)

/-- The digits of a number in a base, at least as many as the precision asks for. -/
def digitsOf (conversion : Conversion) (base : Nat) (upper : Bool) (n : Nat) : Bytes :=
  let digits := (Nat.toDigits base n).map fun c => if upper then c.toUpper else c
  let digits := if n = 0 ∧ conversion.precision = some 0 then [] else digits
  Text.Utf8.encode (List.replicate (conversion.precision.getD 1 - digits.length) '0' ++ digits)

/-- A number with its sign or mark, filled up to the width. -/
def numeral (conversion : Conversion) (mark : Bytes) (digits : Bytes) : Bytes :=
  if conversion.zero && !conversion.left && conversion.precision.isNone then
    mark ++ pad { conversion with width := conversion.width - mark.length } 0x30 digits
  else pad conversion 0x20 (mark ++ digits)

/-- The output for a number by the letter of its conversion. -/
def formatNumber (conversion : Conversion) (letter : Char) (n : Int) : Bytes :=
  let word := (n.emod (Word.count 64)).toNat
  match letter with
  | 'o' =>
    numeral conversion (if conversion.alternate then [0x30] else [])
      (digitsOf conversion 8 false word)
  | 'x' =>
    numeral conversion (if conversion.alternate ∧ word ≠ 0 then [0x30, 0x78] else [])
      (digitsOf conversion 16 false word)
  | 'X' =>
    numeral conversion (if conversion.alternate ∧ word ≠ 0 then [0x30, 0x58] else [])
      (digitsOf conversion 16 true word)
  | 'u' => numeral conversion [] (digitsOf conversion 10 false word)
  | _ =>
    let sign := if n < 0 then [0x2d] else if conversion.plus then [0x2b]
      else if conversion.blank then [0x20] else []
    numeral conversion sign (digitsOf conversion 10 false n.natAbs)

/-- A text cut to the precision and filled up to the width. -/
def formatText (conversion : Conversion) (bytes : Bytes) : Bytes :=
  pad conversion 0x20 (match conversion.precision with
    | some count => bytes.take count
    | none => bytes)

/-- Read the flags of a conversion. -/
def flags (conversion : Conversion) : Bytes → Conversion × Bytes
  | 0x2d :: rest => flags { conversion with left := true } rest
  | 0x2b :: rest => flags { conversion with plus := true } rest
  | 0x20 :: rest => flags { conversion with blank := true } rest
  | 0x30 :: rest => flags { conversion with zero := true } rest
  | 0x23 :: rest => flags { conversion with alternate := true } rest
  | rest => (conversion, rest)

/-- The number that a run of digits is. -/
def decimal (bytes : Bytes) : Nat :=
  bytes.foldl (fun n b => n * 10 + (b.toNat - 48)) 0

/-- Whether a byte is a digit. -/
def isDigit (b : UInt8) : Bool := 0x30 ≤ b && b ≤ 0x39

/-- Read a count that is written out or taken from the arguments. -/
def count (progress : Progress) : Bytes → Int × Progress × Bytes
  | 0x2a :: rest =>
    let (argument, progress) := progress.argument
    ((numberOf argument).1, progress, rest)
  | rest => (decimal (rest.takeWhile isDigit), progress, rest.dropWhile isDigit)

/-- Apply a conversion to the next argument. -/
def convert (conversion : Conversion) (letter : UInt8) (progress : Progress) : Progress :=
  match Char.ofNat letter.toNat with
  | 's' =>
    let (argument, progress) := progress.argument
    progress.emit (formatText conversion argument)
  | 'b' =>
    let (argument, progress) := progress.argument
    let (meant, stop) := expandArgument (argument.length + 1) argument
    { progress.emit (formatText conversion meant) with stopped := stop }
  | 'c' =>
    let (argument, progress) := progress.argument
    progress.emit (pad conversion 0x20 (if argument.isEmpty then [0] else argument.take 1))
  | c =>
    let (argument, progress) := progress.argument
    let (value, numeric) := numberOf argument
    let signed := c = 'd' ∨ c = 'i'
    let (low, high) : Int × Int :=
      if signed then (-(Word.count 63 : Int), (Word.count 63 : Int) - 1)
      else (1 - (Word.count 64 : Int), (Word.count 64 : Int) - 1)
    let faults :=
      if !numeric then
        [if (chars argument).any Char.isDigit
            && (Arithmetic.number? (Arithmetic.skipSpace (chars argument))).isSome then
          ": not completely converted" else ": expected numeric value"]
      else if value < low ∨ high < value then [": Numerical result out of range"]
      else []
    let complaints := faults.map fun fault => Complaint.mk (argument ++ Text.toBytes fault) false
    let progress := { progress with complaints := complaints ++ progress.complaints }
    progress.emit (formatNumber conversion c (max low (min high value)))

/-- Go through a format once. -/
def once (fuel : Nat) (progress : Progress) (format : Bytes) : Progress :=
  match fuel, format with
  | 0, _ | _, [] => progress
  | fuel + 1, b :: rest =>
    if progress.stopped then progress
    else if b = 0x5c then
      let (meant, rest) := escape false rest
      once fuel (progress.emit meant) rest
    else if b = 0x25 then
      if rest.head? = some 0x25 then once fuel (progress.emit [0x25]) (rest.drop 1)
      else
        let (conversion, rest) := flags {} rest
        let (width, progress, rest) := count progress rest
        let conversion := { conversion with
          left := conversion.left || width < 0
          width := width.natAbs }
        let (conversion, progress, rest) := match rest with
          | 0x2e :: rest =>
            let (precision, progress, rest) := count progress rest
            ({ conversion with
              precision := if precision < 0 then none else some precision.toNat }, progress, rest)
          | rest => (conversion, progress, rest)
        match rest with
        | letter :: rest =>
          if "diouxXsbc".toList.contains (Char.ofNat letter.toNat) then
            once fuel (convert conversion letter progress) rest
          else
            let complaint := Text.toBytes "%" ++ [letter] ++ Text.toBytes ": invalid directive"
            { progress with complaints := ⟨complaint, true⟩ :: progress.complaints, stopped := true }
        | [] =>
          { progress with
            complaints := ⟨Text.toBytes "missing format character", true⟩ :: progress.complaints
            stopped := true }
    else
      let plain := format.takeWhile fun b => b ≠ 0x5c && b ≠ 0x25
      once fuel (progress.emit plain) (format.drop plain.length)

/-- Use a format until the arguments are used up. -/
def rounds (fuel : Nat) (progress : Progress) (format : Bytes) : Progress :=
  match fuel with
  | 0 => progress
  | fuel + 1 =>
    let progress := once (format.length + 1) { progress with consumed := false } format
    if progress.arguments.isEmpty || !progress.consumed || progress.stopped then progress
    else rounds fuel progress format

/-- The output of a format for some arguments, and the complaints. -/
def printf (format : Bytes) (arguments : List Bytes) : Bytes × List Complaint :=
  let done := rounds (arguments.length + 1) ⟨[], arguments, false, [], false⟩ format
  (done.output.reverse.flatten, done.complaints.reverse)

/-- The output of words on a line, with their escapes replaced. -/
def echo (words : List Bytes) : Bytes :=
  let (line, words) := match words with
    | [0x2d, 0x6e] :: rest => (([] : Bytes), rest)
    | words => ([10], words)
  let text := [0x20].intercalate words
  let (meant, stop) := expandArgument (text.length + 1) text
  if stop then meant else meant ++ line

end Format

end EditorBridge.Shell
