import Rubric.Value.Shown

/-!
# Search depth

How deep a search goes below the statements it starts from, which are at depth one. A depth is a
positive integer; a truth value or another number that happens to be integral is none.
-/

namespace Rubric

structure Depth where
  val : Nat
  pos : 0 < val := by decide

namespace Depth

/-- The depth of a search if none is given. -/
def standard : Depth := { val := 3 }

/-- The depth a value stands for, if it is a positive integer. -/
def ofValue? : Value → Option Depth
  | .int (.ofNat (n + 1)) => some { val := n + 1, pos := Nat.succ_pos n }
  | _ => none

end Depth

structure InvalidDepth where
  value : Value

def InvalidDepth.message (bounds : Bounds) (invalid : InvalidDepth) : Except Unshowable String :=
  (invalid.value.shown bounds.shownValues).map
    ("Recursion depth must be a positive integer, got " ++ ·)

def Depth.check (value : Value) : Except InvalidDepth Depth :=
  match Depth.ofValue? value with
  | some depth => .ok depth
  | none => .error ⟨value⟩

end Rubric
