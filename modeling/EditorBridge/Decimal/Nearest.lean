/-!
# Nearest doubles

The double nearest to a decimal numeral: an optional sign, digits with an optional point among them,
and an optional power of ten.
-/

namespace EditorBridge.Decimal

/-- The digits zero to nine. -/
def isDigit (c : Char) : Bool :=
  '0' ≤ c && c ≤ '9'

/-- The number that digits stand for. -/
def numberOf (digits : List Char) : Nat :=
  digits.foldl (fun n c => n * 10 + (c.toNat - '0'.toNat)) 0

/-- A sign, if there is one, and what follows it. -/
def splitSign : List Char → Bool × List Char
  | '-' :: rest => (true, rest)
  | '+' :: rest => (false, rest)
  | rest => (false, rest)

/-- The power of ten at the end of a numeral. -/
def power? : List Char → Option Int
  | [] => some 0
  | c :: rest =>
    let (negative, digits) := splitSign rest
    if (c == 'e' || c == 'E') && !digits.isEmpty && digits.all isDigit then
      some (if negative then -(numberOf digits : Int) else numberOf digits)
    else none

/-- Every decimal whose first digit stands above this power of ten is too large for a double, and
every one below its opposite is nearest to zero. -/
def doubleRange : Int := 400

/-- The finite double nearest to `digits · 10 ^ exponent`, if there is one. -/
def nearest? (negative : Bool) (digits : Nat) (exponent : Int) : Option UInt64 :=
  let first : Int := (Nat.toDigits 10 digits).length + exponent
  let size : Float :=
    if digits = 0 ∨ first < -doubleRange then 0
    else if doubleRange < first then 1.0 / 0.0
    else Float.ofScientific digits (exponent < 0) exponent.natAbs
  if size.isInf then none else some (if negative then -size else size).toBits

/-- The finite double nearest to a numeral. -/
def double? (numeral : List Char) : Option UInt64 := do
  let (negative, rest) := splitSign numeral
  let whole := rest.takeWhile isDigit
  let (fraction, rest) :=
    match rest.dropWhile isDigit with
    | '.' :: rest => (rest.takeWhile isDigit, rest.dropWhile isDigit)
    | rest => ([], rest)
  guard (!(whole ++ fraction).isEmpty)
  let power ← power? rest
  nearest? negative (numberOf (whole ++ fraction)) (power - fraction.length)

end EditorBridge.Decimal
