/-!
# Sets of characters as ranges

A set of characters is given by the increasing list of the numbers at which membership changes, from
outside at zero: the first range begins at the first number and ends before the second.
-/

namespace Calculator.Text

/-- Whether a number lies in a range: whether it has passed an odd number of bounds. -/
def inRanges : List Nat → Nat → Bool
  | [], _ => false
  | bound :: rest, n => bound ≤ n && !inRanges rest n

end Calculator.Text
