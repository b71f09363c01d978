import Rubric.Value.Shown

/-!
# Kinds of demand

Requirements come in three kinds: types that must occur, types that must not, and structures.
-/

namespace Rubric

inductive Demand where
  | must
  | mustNot
  | structures
deriving DecidableEq

namespace Demand

/-- The three kinds in the order in which they are reported. -/
def all : List Demand := [.must, .mustNot, .structures]

def key : Demand → String
  | .must => "must"
  | .mustNot => "mustNot"
  | .structures => "structure"

/-- The constant by which a kind is known. -/
def constant : Demand → String
  | .must => "MUST"
  | .mustNot => "MUST_NOT"
  | .structures => "STRUCTURE"

def description : Demand → String
  | .must => "Node types that must occur in the code"
  | .mustNot => "Node types that must not occur in the code"
  | .structures => "Parent node types that must contain other node types"

def ofValue? : Value → Option Demand
  | .string word => all.find? (·.key == word)
  | _ => none

def rejection (bounds : Bounds) (value : Value) : Except Unshowable String :=
  (value.shown bounds.shownValues).map (· ++ " is not a valid RequirementKind")

end Demand

end Rubric
