import Rubric.Requirement.Check
import Rubric.Value.Shown

/-!
# What setters are given

A setter of a requirement set is given a plain value, or a collection that a set or a document holds
already. The parts of such a collection are taken as they are: a requirement that has been read is
not read again.
-/

namespace Rubric

/-- A part of a collection. -/
inductive Part where
  | plain (value : Value)
  | read (requirement : Requirement)  -- one that has been read before

namespace Part

def type? : Part → Option String
  | .plain value => value.string?
  | .read _ => none

/-- The requirement that a part is, or that an object describes if it is sound. -/
def requirement? (bounds : Bounds) : Part → Option Requirement
  | .read requirement => some requirement
  | .plain (.object members) =>
    match Requirement.check bounds.readRequirements (.object members) with
    | .ok requirement => some requirement
    | .error _ => none
  | .plain _ => none

def shown (bounds : Bounds) : Part → Except Unshowable String
  | .plain value => value.shown bounds.shownValues
  | .read requirement => requirement.shown bounds.shownRequirements

end Part

/-- What a setter is given. -/
inductive Given where
  | plain (value : Value)
  | held (parts : List Part)

namespace Given

instance : Coe Value Given := ⟨.plain⟩

def types (types : List String) : Given :=
  .held (types.map fun type => .plain (.string type))

def requirements (requirements : List Requirement) : Given :=
  .held (requirements.map .read)

def parts? : Given → Option (List Part)
  | .plain (.array items) => some (items.map .plain)
  | .plain _ => none
  | .held parts => some parts

/-- The types that a list of strings names; nothing if a part is no string. -/
def types? (given : Given) : Option (List String) := do
  (← given.parts?).mapM Part.type?

/-- The requirements that a list holds or describes; nothing if a part is not sound. -/
def requirements? (bounds : Bounds) (given : Given) : Option (List Requirement) := do
  (← given.parts?).mapM (Part.requirement? bounds)

def shown (bounds : Bounds) : Given → Except Unshowable String
  | .plain value => value.shown bounds.shownValues
  | .held parts => (parts.mapM (Part.shown bounds)).map Entry.parenthesized

end Given

end Rubric
