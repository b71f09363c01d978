import Rubric.Goal
import Rubric.RequirementSet

/-!
# Requirement documents

Requirements and grading options as a file holds them. Unlike the setters of a requirement set,
reading a document is strict: any complaint makes it invalid.
-/

namespace Rubric

/-- A requirement document. -/
structure Document where
  depth : Option Depth := none
  goal : Option Goal := none
  must : List String := []
  mustNot : List String := []
  structures : List Requirement := []

namespace Document

def checkDepth (value : Value) : Checked Depth :=
  match Checked.integer value with
  | .ok (.ofNat (n + 1)) => .ok { val := n + 1, pos := Nat.succ_pos n }
  | .ok _ => Checked.fail .notPositive
  | .error complaints => .error complaints

def checkGoal (value : Value) : Checked Goal :=
  match Goal.ofValue? value with
  | some goal => .ok goal
  | none => Checked.fail .notListed

def depthField : Checked.Field := { key := "recursion_depth" }

def goalField : Checked.Field := { key := "source_type" }

def mustField : Checked.Field := { key := "must" }

/-- The field with the types that must not occur. -/
def mustNotField : Checked.Field := { key := "mustNot", other := some "must_not" }

def structuresField : Checked.Field := { key := "structure" }

def checkMembers (bounds : Bounds) (members : Members) : Checked Document :=
  let depth := depthField.optional members none (Checked.orNull checkDepth)
  let goal := goalField.optional members none (Checked.orNull checkGoal)
  let must := mustField.optional members [] (Checked.items Checked.text)
  let mustNot := mustNotField.optional members [] (Checked.items Checked.text)
  let structures := structuresField.optional members []
    (Checked.items (Requirement.check bounds.readRequirements))
  ((((((depth.map Document.mk).apply goal).apply must).apply mustNot).apply structures).butFor
    (Checked.strangers [depthField, goalField, mustField, mustNotField, structuresField] members))

def check (bounds : Bounds) : Value → Checked Document
  | .object members => checkMembers bounds members
  | _ => Checked.fail .notAnObject

/-- The set that the setters make of the requirements of a document. -/
def toSet (bounds : Bounds) (document : Document) : Noted RequirementSet :=
  RequirementSet.ofGiven bounds (.types document.must) (.types document.mustNot)
    (.requirements document.structures)

end Document

end Rubric
