/-!
# Sets of characters given by intervals

Tables of character properties are kept as increasing lists of closed intervals of code points.
-/

namespace Rubric.Text

/-- A set of code points, as closed intervals in increasing order. -/
abbrev Ranges := Array (Nat × Nat)

namespace Ranges

def contains (ranges : Ranges) (c : Char) : Bool :=
  ranges.any fun (low, high) => low ≤ c.toNat && c.toNat ≤ high

end Ranges

end Rubric.Text
