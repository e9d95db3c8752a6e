/-!
# Ranges of code points

Character classes outside ASCII are given by the ranges of code points that belong to them, each
range with both of its ends, in ascending order.
-/

namespace WrapperGen.Text

/-- Whether the code point of `c` lies in one of the ranges. -/
def inRanges (ranges : List (Nat × Nat)) (c : Char) : Bool :=
  ranges.any fun (low, high) => low ≤ c.toNat && c.toNat ≤ high

end WrapperGen.Text
