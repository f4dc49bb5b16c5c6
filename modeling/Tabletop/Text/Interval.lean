/-!
Sets of characters kept as ascending lists of closed intervals of code points.
-/

namespace Tabletop.Text

/-- Closed intervals of code points, in ascending order and apart from one another. -/
abbrev Intervals := List (Nat × Nat)

/-- Whether one of the intervals holds a code point; the search stops at the first one beyond it. -/
def Intervals.holds : Intervals → Nat → Bool
  | [], _ => false
  | (low, high) :: rest, code =>
      if code < low then false else code ≤ high || Intervals.holds rest code

end Tabletop.Text
