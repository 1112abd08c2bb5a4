/-!
# DongleLink.Text.Ranges

A character class as a list of closed ranges of code points, in ascending order.
-/

namespace DongleLink.Text

/-- Whether a code point lies in one of the ranges. -/
def inRanges (ranges : List (Nat × Nat)) (n : Nat) : Bool :=
  ranges.any fun (low, high) => low ≤ n && n ≤ high

end DongleLink.Text
