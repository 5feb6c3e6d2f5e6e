/-
Classes of characters are given by the ranges of code points that belong to
them, in ascending order and with both ends included.
-/

namespace Parley.Text

/-- Tells whether a code point lies in one of the ranges. -/
def inRanges (ranges : List (Nat × Nat)) (code : Nat) : Bool :=
  ranges.any fun range => range.1 ≤ code && code ≤ range.2

end Parley.Text
