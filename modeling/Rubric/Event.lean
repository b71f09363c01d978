import Rubric.Document
import Rubric.Engine
import Rubric.Path

/-!
# Events

What happens on the way to an outcome, for those who want to follow it.
-/

namespace Rubric

inductive Event where
  | loaded (document : Document) (path : Path)
  | ignored (warning : Warning)
  | grading (source : String) (depth : Depth) (goal : Goal)
  /-- The requirements name types that the vocabulary does not have. -/
  | unknownTypes (types : List String)
  | parsed (statements : Nat)
  | unparsed (fault : SyntaxFault)
  | satisfied (parent : String)
  | graded (requirements failures : Nat)
  | exported (path : Path)

namespace Event

/-- The text of an event, unless it shows what cannot be shown. -/
def message (bounds : Bounds) : Event → Except Unshowable String
  | .loaded document path =>
    .ok ("Loaded " ++ toString document.must.length ++ " must, " ++
      toString document.mustNot.length ++ " must-not and " ++
      toString document.structures.length ++ " structure requirement(s) from " ++ path.text)
  | .ignored warning => warning.message bounds
  | .grading source depth goal =>
    (Text.decimal depth.val).map fun depth =>
      "Grading " ++ source ++ " with depth " ++ depth ++ " as " ++ goal.name
  | .unknownTypes types =>
    .ok ("Requirements reference unknown node types: " ++ ", ".intercalate types)
  | .parsed statements => .ok ("Parsed " ++ toString statements ++ " top-level statement(s)")
  | .unparsed fault => .ok ("Source could not be parsed: " ++ fault.message)
  | .satisfied parent => .ok ("Structure " ++ parent ++ " satisfied")
  | .graded requirements failures =>
    .ok ("Graded " ++ toString requirements ++ " requirement(s), " ++ toString failures ++
      " failed")
  | .exported path => .ok ("Exported results to " ++ path.text)

def ofReport (requirements : List Requirement) (report : Report) : List Event :=
  let satisfied := (List.zip requirements report.structures).filter fun (_, item) => item.passed
  satisfied.map (fun (requirement, _) => .satisfied requirement.parent) ++
    [.graded report.items.length report.failures.length]

def ofParse (engine : Engine) (parsed : Except SyntaxFault Node) : List Event :=
  let unknown := match engine.unknownTypes with
    | [] => []
    | types => [.unknownTypes types]
  let graded := match parsed with
    | .error fault => [.unparsed fault]
    | .ok root =>
      .parsed root.children.length ::
        ofReport engine.requirements.structures
          (Grading.tree engine.requirements engine.depth root)
  unknown ++ graded

end Event

end Rubric
