/-!
# Words

Integers of a fixed number of bits, with and without a sign.
-/

namespace EditorBridge.Word

/-- How many words of some bits there are. -/
def count (bits : Nat) : Nat := Nat.pow 2 bits

/-- Whether an integer is a word without a sign. -/
def fits (bits : Nat) (n : Int) : Bool :=
  0 ≤ n && n < count bits

/-- Whether an integer is a word with a sign. -/
def fitsSigned (bits : Nat) (n : Int) : Bool :=
  -(count (bits - 1) : Int) ≤ n && n < count (bits - 1)

end EditorBridge.Word
