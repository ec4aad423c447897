/-!
# Shortest decimals

The shortest decimal that reads back as a given double. A finite double stands for an interval of
real numbers, those that round to it. Of the decimals in that interval with the fewest digits, the
one nearest to the double is taken.
-/

namespace EditorBridge.Decimal

/-- A positive decimal: `digits · 10 ^ exponent`. -/
structure Numeral where
  /-- The significant digits, as a number. -/
  digits : Nat
  /-- The power of ten they are multiplied by. -/
  exponent : Int

/-- A power of two. -/
def twoTo (n : Nat) : Nat := Nat.pow 2 n

/-- A power of ten. -/
def tenTo (n : Nat) : Nat := Nat.pow 10 n

/-- A double, by its bits. -/
structure Binary where
  /-- Whether the sign bit is set. -/
  negative : Bool
  /-- The biased exponent. -/
  exponent : Nat
  /-- The fraction bits. -/
  fraction : Nat

/-- The parts of a double's bit pattern. -/
def Binary.ofBits (bits : UInt64) : Binary :=
  ⟨bits.toNat / twoTo 63 == 1, bits.toNat / twoTo 52 % 2048, bits.toNat % twoTo 52⟩

/-- Whether the double is zero. -/
def Binary.isZero (b : Binary) : Bool :=
  b.exponent == 0 && b.fraction == 0

/-- The significand of a finite double: its absolute value is `significand · 2 ^ scale`. -/
def Binary.significand (b : Binary) : Nat :=
  if b.exponent = 0 then b.fraction else b.fraction + twoTo 52

/-- The power of two that the significand is multiplied by. -/
def Binary.scale (b : Binary) : Int :=
  (Nat.max b.exponent 1 : Int) - 1075

/-- The interval of numbers that round to a double, over a common denominator. -/
structure Interval where
  /-- Four times the significand, scaled: the double itself. -/
  value : Nat
  /-- The lower end. -/
  low : Nat
  /-- The upper end. -/
  high : Nat
  /-- What all three are divided by. -/
  denominator : Nat
  /-- Whether the ends round to the double too. -/
  closed : Bool

/-- The interval of a finite double. The gap below a power of two is half the gap above it. -/
def Binary.interval (b : Binary) : Interval :=
  let m := b.significand
  let up := twoTo b.scale.toNat
  let below := if b.fraction = 0 ∧ 1 < b.exponent then 1 else 2
  { value := 4 * m * up
    low := (4 * m - below) * up
    high := (4 * m + 2) * up
    denominator := 4 * twoTo (-b.scale).toNat
    closed := m % 2 == 0 }

/-- Whether `n · 10 ^ e` lies in the interval. -/
def Interval.holds (i : Interval) (n : Nat) (e : Int) : Bool :=
  let scaled := n * tenTo e.toNat * i.denominator
  let down := tenTo (-e).toNat
  if i.closed then i.low * down ≤ scaled && scaled ≤ i.high * down
  else i.low * down < scaled && scaled < i.high * down

/-- The least `p` from `-330` on such that the value is below `10 ^ p`. -/
def Interval.magnitude (i : Interval) : Int :=
  let below (p : Int) : Bool :=
    i.value * tenTo (-p).toNat < tenTo p.toNat * i.denominator
  (((List.range 660).map fun (k : Nat) => (k : Int) - 330).find? below).getD 330

/-- The decimal of the interval nearest to its value on the grid of step `10 ^ e`, if there is one.
Of two equally near ones the even one is taken. -/
def Interval.onGrid? (i : Interval) (e : Int) : Option Numeral :=
  let up := i.value * tenTo (-e).toNat
  let unit := tenTo e.toNat * i.denominator
  let lower := up / unit
  let rest := 2 * (up % unit)
  let nearLower := rest < unit || (rest == unit && lower % 2 == 0)
  let (first, second) := if nearLower then (lower, lower + 1) else (lower + 1, lower)
  if i.holds first e then some ⟨first, e⟩
  else if i.holds second e then some ⟨second, e⟩
  else none

/-- The shortest decimal in the interval of a finite double other than zero. -/
def Binary.shortest (b : Binary) : Numeral :=
  let i := b.interval
  let p := i.magnitude
  ((List.range 17).findSome? fun (k : Nat) => i.onGrid? (p - 1 - k)).getD ⟨b.significand, b.scale⟩

/-- The decimal digits of a number. -/
def decimalDigits (n : Nat) : List Char :=
  Nat.toDigits 10 n

/-- The digits without trailing zeros, and the power of ten of the first digit. -/
def Numeral.scientific (d : Numeral) : List Char × Int :=
  let all := decimalDigits d.digits
  let kept := (all.reverse.dropWhile (· == '0')).reverse
  (if kept.isEmpty then ['0'] else kept, d.exponent + all.length - 1)

/-- The digits of a decimal with a point and at least one digit on both sides of it. -/
def positional (digits : List Char) (first : Int) : List Char :=
  if first < 0 then
    ['0', '.'] ++ List.replicate (-first - 1).toNat '0' ++ digits
  else
    let whole := first.toNat + 1
    let left := digits.take whole ++ List.replicate (whole - digits.length) '0'
    let right := digits.drop whole
    left ++ ['.'] ++ (if right.isEmpty then ['0'] else right)

/-- The digits of a decimal with an exponent. -/
def withExponent (digits : List Char) (first : Int) : List Char :=
  let mantissa := match digits with
    | d :: [] => [d]
    | d :: rest => d :: '.' :: rest
    | [] => []
  let sign := if first < 0 then '-' else '+'
  mantissa ++ ['e', sign] ++ decimalDigits first.natAbs

/-- The text of a double with its sign. Zero has one digit before and one after the point. -/
def Binary.text (b : Binary) (write : List Char → Int → List Char) : String :=
  let body :=
    if b.isZero then ['0', '.', '0']
    else
      let (digits, first) := b.shortest.scientific
      write digits first
  String.ofList (if b.negative then '-' :: body else body)

/-- The shortest text of a double, with an exponent where the first digit stands below `10 ^ -5` or
at `10 ^ 16` and above. -/
def compactText (bits : UInt64) : String :=
  (Binary.ofBits bits).text fun digits first =>
    if -5 ≤ first ∧ first < 16 then positional digits first else withExponent digits first

/-- The shortest text of a double without any exponent; what is not finite has a name. -/
def plainText (bits : UInt64) : String :=
  let b := Binary.ofBits bits
  if b.exponent = 2047 then
    if b.fraction ≠ 0 then "NaN" else if b.negative then "-inf" else "inf"
  else b.text positional

end EditorBridge.Decimal
