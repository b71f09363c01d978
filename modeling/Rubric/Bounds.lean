/-!
# Bounds

How much may stand in one another before there is no room to go further down. How much that is
depends on what is going on already when it comes to it. So it is a parameter, and what is stated
holds for all bounds.
-/

namespace Rubric

/-- How deep things may stand in one another. -/
structure Bounds where
  shownValues : Nat  -- values in one that is shown
  shownRequirements : Nat  -- requirements in one that is shown
  readRequirements : Nat  -- requirements in one that is read

/-- Why something cannot be shown. -/
inductive Unshowable where
  | oversized  -- an integer has too many digits
  | tooDeep
deriving DecidableEq

end Rubric
