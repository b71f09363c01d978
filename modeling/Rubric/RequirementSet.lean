import Rubric.Demand
import Rubric.Given
import Rubric.Vocabulary
import Rubric.Warning

/-!
# Requirement sets

The types that must occur, those that must not, and the structures asked for. In the first two the
position counts: a type listed twice is two demands. A setter replaces a whole collection or, if the
value is not fit, leaves the set alone and warns.
-/

namespace Rubric

/-- All requirements a program is graded against. -/
structure RequirementSet where
  must : List String := []
  mustNot : List String := []
  structures : List Requirement := []
deriving BEq, Inhabited

namespace RequirementSet

section

variable (bounds : Bounds)

def setMust (set : RequirementSet) (given : Given) : Noted RequirementSet :=
  match given.types? with
  | some types => .quiet { set with must := types }
  | none => .warn bounds (.must given) set

def setMustNot (set : RequirementSet) (given : Given) : Noted RequirementSet :=
  match given.types? with
  | some types => .quiet { set with mustNot := types }
  | none => .warn bounds (.mustNot given) set

def setStructures (set : RequirementSet) (given : Given) : Noted RequirementSet :=
  match given.requirements? bounds with
  | some requirements => .quiet { set with structures := requirements }
  | none => .warn bounds (.structures given) set

/-- The set that the setters make of what is given. -/
def ofGiven (must mustNot structures : Given) : Noted RequirementSet := do
  let set ← setMust bounds {} must
  let set ← set.setMustNot bounds mustNot
  set.setStructures bounds structures

/-- A set of its own with the same requirements. They go through the setters again. -/
def copy (set : RequirementSet) : Noted RequirementSet :=
  ofGiven bounds (.types set.must) (.types set.mustNot) (.requirements set.structures)

/-- Applies a setter to the value under a key, if the key is there. -/
def setFrom (members : Members) (key : String)
    (set : RequirementSet → Given → Noted RequirementSet) (current : RequirementSet) :
    Noted RequirementSet :=
  match members.get? key with
  | some value => set current value
  | none => .quiet current

/-- The set that the members of an object describe. Of the two spellings for the types that must not
occur, `must_not` is applied last. -/
def ofMembers (members : Members) : Noted RequirementSet := do
  let set ← setFrom members "must" (setMust bounds) {}
  let set ← setFrom members "mustNot" (setMustNot bounds) set
  let set ← setFrom members "must_not" (setMustNot bounds) set
  setFrom members "structure" (setStructures bounds) set

end

def keys : List String := ["must", "mustNot", "must_not", "structure"]

def occursIn (part : List Char) : List Char → Bool
  | [] => part.isEmpty
  | c :: rest => part.isPrefixOf (c :: rest) || occursIn part rest

/-- The set that a value describes. A list or a string that speaks of none of the keys describes the
empty set; any other value that is no object describes none. -/
def ofValue? (bounds : Bounds) : Value → Option (Noted RequirementSet)
  | .object members => some (ofMembers bounds members)
  | .array items =>
    if keys.any fun key => items.any fun item => item.string? == some key then none
    else some (.quiet {})
  | .string text =>
    if keys.any fun key => occursIn key.toList text.toList then none else some (.quiet {})
  | _ => none

def nodeTypes (set : RequirementSet) : List String :=
  Vocabulary.sortedDistinct
    (set.must ++ set.mustNot ++ set.structures.flatMap Requirement.nodeTypes)

/-- Every type that a structure requirement looks inside of, sorted. -/
def parentTypes (set : RequirementSet) : List String :=
  Vocabulary.sortedDistinct (set.structures.flatMap Requirement.parentTypes)

def isEmpty (set : RequirementSet) : Bool :=
  set.must.isEmpty && set.mustNot.isEmpty && set.structures.isEmpty

def count (set : RequirementSet) : Demand → Nat
  | .must => set.must.length
  | .mustNot => set.mustNot.length
  | .structures => set.structures.length

def get (set : RequirementSet) : Demand → Value
  | .must => .strings set.must
  | .mustNot => .strings set.mustNot
  | .structures => .array (set.structures.map Requirement.toValue)

def bracketed (texts : List String) : String :=
  "[" ++ ", ".intercalate texts ++ "]"

def shown (bounds : Bounds) (set : RequirementSet) : Except Unshowable String := do
  let structures ← set.structures.mapM (Requirement.shown bounds.shownRequirements)
  return "RequirementSet(must=" ++ bracketed (set.must.map Text.quoted) ++
    ", must_not=" ++ bracketed (set.mustNot.map Text.quoted) ++
    ", structure=" ++ bracketed structures ++ ")"

end RequirementSet

end Rubric
