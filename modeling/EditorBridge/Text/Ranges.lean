/-!
# Ranges of code points

A property of characters as a list of inclusive ranges, the form in which the standard gives it.
-/

namespace EditorBridge.Text

/-- Inclusive ranges of code points. -/
abbrev Ranges := List (Nat × Nat)

/-- Whether one of the ranges holds the character. -/
def Ranges.contains (ranges : Ranges) (c : Char) : Bool :=
  ranges.any fun range => range.1 ≤ c.toNat && c.toNat ≤ range.2

end EditorBridge.Text
