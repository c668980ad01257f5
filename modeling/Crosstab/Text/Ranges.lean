/-!
# Ranges of code points

A property of characters, given by the code points that have it.
-/

namespace Crosstab.Text

/-- A code point lies in one of the closed ranges. -/
def inRanges (ranges : List (Nat × Nat)) (code : Nat) : Bool :=
  ranges.any fun range => decide (range.1 ≤ code) && decide (code ≤ range.2)

end Crosstab.Text
