/-!
# Sets of code points

Properties of characters are given by ascending ranges of code points.
-/

namespace LexicalModel.Text

/-- Membership in one of the ranges, which stand in ascending order. -/
def inRanges : List (Nat × Nat) → Nat → Bool
  | [], _ => false
  | (lo, hi) :: rs, n => if n < lo then false else if n ≤ hi then true else inRanges rs n

end LexicalModel.Text
