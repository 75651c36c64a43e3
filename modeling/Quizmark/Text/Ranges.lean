/-!
# Sets of characters by ranges

A table of a character property is a list of closed ranges of code points in increasing order.
`inRanges` looks a code point up; it stops at the first range that begins above it.
-/

namespace Quizmark.Text

/-- Whether a code point lies in one of the ranges, which are in increasing order. -/
def inRanges : List (Nat × Nat) → Nat → Bool
  | [], _ => false
  | (lo, hi) :: rest, n => if n < lo then false else n ≤ hi || inRanges rest n

end Quizmark.Text
