/-!
# Ranges of code points

A property of characters is given by the ranges of code points that have it, in ascending order.
Looking a character up stops at the first range that lies beyond it.
-/

namespace ExhaustionGuard.Text

/-- Whether a number lies in one of some ranges. The ranges are in ascending order, so a range
that starts beyond the number ends the search. -/
def isIn (number : Nat) : List (Nat × Nat) → Bool
  | [] => false
  | (first, last) :: rest => first ≤ number && (number ≤ last || isIn number rest)

end ExhaustionGuard.Text
