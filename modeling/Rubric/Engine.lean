import Rubric.Goal
import Rubric.Grading

/-!
# Engines

An engine holds a requirement set and the conditions under which it grades: search depth, goal and
vocabulary. Its setters ignore what is not fit and warn.
-/

namespace Rubric

/-- The conditions under which an engine grades. -/
structure Conditions where
  depth : Depth := .standard
  goal : Goal := .script
  vocabulary : Vocabulary := .standard

/-- A requirement set and the conditions under which it is graded. -/
structure Engine extends Conditions where
  requirements : RequirementSet := {}

section

variable (bounds : Bounds)

def Conditions.setDepth (conditions : Conditions) (value : Value) : Noted Conditions :=
  match Depth.ofValue? value with
  | some depth => .quiet { conditions with depth }
  | none => .warn bounds (.depth value conditions.depth) conditions

namespace Engine

inductive Offer where
  | set (set : RequirementSet)
  | other (shown : Except Unshowable String)  -- anything but a set, by its text

def assign (engine : Engine) : Offer → Noted Engine
  | .set set => (set.copy bounds).mapResult fun copy => { engine with requirements := copy }
  | .other shown => .warn bounds (.requirements shown) engine

def setDepth (engine : Engine) (value : Value) : Noted Engine :=
  (engine.toConditions.setDepth bounds value).mapResult fun conditions =>
    { engine with toConditions := conditions }

def build (offer : Option Offer) (depth : Option Value) (goal : Goal) (vocabulary : Vocabulary) :
    Noted Engine := do
  let engine : Engine := { goal, vocabulary }
  let engine ← match offer with
    | some offer => engine.assign bounds offer
    | none => pure engine
  match depth with
  | some value => engine.setDepth bounds value
  | none => pure engine

/-- The goal under the first of the two keys that is there; the script if it names none. -/
def goalIn (members : Members) : Noted Goal :=
  match (members.get? "sourceType").or (members.get? "source_type") with
  | none => .quiet .script
  | some value =>
    match Goal.ofValue? value with
    | some goal => .quiet goal
    | none => .warn bounds (.goal value) .script

/-- Sets the depth to the value under a key, if the key is there. -/
def setDepthFrom (members : Members) (key : String) (engine : Engine) : Noted Engine :=
  match members.get? key with
  | some value => engine.setDepth bounds value
  | none => .quiet engine

/-- The engine that a configuration describes. Of two spellings of the depth, `recursion_depth` is
applied last. -/
def ofConfiguration (configuration : Value) (vocabulary : Vocabulary) : Noted Engine :=
  match configuration with
  | .object members => do
    let goal ← goalIn bounds members
    let set ← RequirementSet.ofMembers bounds members
    let engine ← build bounds (some (.set set)) none goal vocabulary
    let engine ← setDepthFrom bounds members "recursionDepth" engine
    setDepthFrom bounds members "recursion_depth" engine
  | other => .warn bounds (.configuration other) { vocabulary }

end Engine

end

namespace Engine

/-- The types that the requirements mention and the vocabulary does not know. -/
def unknownTypes (engine : Engine) : List String :=
  engine.vocabulary.unknownTypes engine.requirements.nodeTypes

def grade (engine : Engine) (parser : Goal → Vocabulary → Parser) (text : String) :
    Except Breakdown Outcome :=
  Grading.source (parser engine.goal engine.vocabulary) engine.requirements engine.depth text

def shown (bounds : Bounds) (engine : Engine) : Except Unshowable String := do
  let requirements ← engine.requirements.shown bounds
  let depth ← Text.decimal engine.depth.val
  return "Proctor(requirements=" ++ requirements ++ ", recursion_depth=" ++ depth ++
    ", source_type=" ++ Text.quoted engine.goal.name ++ ")"

end Engine

end Rubric
