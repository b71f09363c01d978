import Rubric.Depth
import Rubric.Matching
import Rubric.Message
import Rubric.Outcome
import Rubric.RequirementSet

/-!
# Grading

A tree is graded by its top-level statements, which are at depth one, and those below them down to
the search depth. A source text is parsed first; if that fails, the failure is the outcome.
-/

namespace Rubric

/-- Turns a source text into a tree or finds its fault, unless it breaks down. -/
abbrev Parser := String → Except Breakdown (Except SyntaxFault Node)

namespace Grading

def mustItems (types : List String) (nodes : List Node) : List Item :=
  List.zipWith (fun type passed => ⟨some type, passed, Message.must type passed⟩) types
    (Matching.types types nodes)

/-- The items for the types that must not occur. -/
def mustNotItems (types : List String) (nodes : List Node) : List Item :=
  types.map fun type =>
    let passed := !nodes.any (·.type == type)
    ⟨some type, passed, Message.mustNot type passed⟩

def structureItems (requirements : List Requirement) (nodes : List Node) : List Item :=
  requirements.map fun requirement =>
    let passed := requirement.holdsAmong nodes
    ⟨none, passed, Message.containment requirement passed⟩

def tree (set : RequirementSet) (depth : Depth) (tree : Node) : Report :=
  let nodes := Node.within depth.val tree.children
  ⟨mustItems set.must nodes, mustNotItems set.mustNot nodes, structureItems set.structures nodes⟩

def conclude (set : RequirementSet) (depth : Depth) : Except SyntaxFault Node → Outcome
  | .ok root => .graded (tree set depth root)
  | .error fault => .unparsed (ParseFailure.ofFault fault)

def source (parse : Parser) (set : RequirementSet) (depth : Depth) (text : String) :
    Except Breakdown Outcome :=
  (parse text).map (conclude set depth)

/-- Grades a source text to a depth that has not been checked. The depth matters only if the text
can be parsed. -/
def sourceToDepth (parse : Parser) (set : RequirementSet) (depth : Value) (text : String) :
    Except Breakdown (Except InvalidDepth Outcome) :=
  (parse text).map fun
    | .ok root => (Depth.check depth).map fun depth => .graded (tree set depth root)
    | .error fault => .ok (.unparsed (ParseFailure.ofFault fault))

end Grading

end Rubric
