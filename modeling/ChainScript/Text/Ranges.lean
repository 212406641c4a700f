/-!
# Ranges of code points

A property of characters is given by the ranges of code points that have it, both ends included
and in ascending order.
-/

namespace ChainScript.Text

/-- The code point of the character lies in one of the ranges. -/
def inRanges (ranges : List (Nat × Nat)) (c : Char) : Bool :=
  ranges.any fun (first, last) => first ≤ c.toNat && c.toNat ≤ last

end ChainScript.Text
