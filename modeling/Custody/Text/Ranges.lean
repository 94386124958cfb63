/-!
# Character ranges

A property of characters is a list of ranges of code points, both ends included.
-/

namespace Custody.Text

/-- The character lies in one of the ranges. -/
def inRanges (ranges : List (Nat × Nat)) (c : Char) : Bool :=
  ranges.any fun (low, high) => low ≤ c.toNat && c.toNat ≤ high

end Custody.Text
