import Rubric.Display.Table
import Rubric.Markup
import Rubric.Outcome
import Rubric.RequirementSet

/-!
# Reports for the terminal

Reports are given as lines of plain text with single blanks, free of frames and colours. A terminal
has lines of a thousand cells. A panel has a frame around it and a title in its upper edge, and may
have another in its lower one.
-/

namespace Rubric.Display

/-! ## Room -/

def terminalWidth : Nat := 1000

/-- The cells of a line in a panel, which has an edge and a blank on either side. -/
def panelWidth : Nat := terminalWidth - 4

/-- The cells that the lines around and between columns take. -/
def rules (columns : Nat) : Nat := columns + 1

/-! ## Lines -/

def wrapped (width : Nat) (text : String) : List String :=
  (wrap .folded width text.toList).flatMap linesOf

def printed (markup : String) : Except Markup.Fault (List String) :=
  (Markup.plain markup).map (wrapped terminalWidth)

/-- What a text without faults shows; guarded text has none. -/
def shown (markup : String) : String :=
  (Markup.plain markup).toOption.getD ""

/-- The lines of a title in the edge of a panel, where there is room for one line. -/
def title (markup : String) : List String :=
  let line := (shown markup).toList.map fun c => if c == '\n' then ' ' else c
  linesOf (crop .folded panelWidth (' ' :: expandTabs 0 line ++ [' ']))

/-! ## Reports -/

def heading : Demand → String
  | .must => "Required functionality"
  | .mustNot => "Must not use these elements"
  | .structures => "Required structure"

def item (item : Item) : List String :=
  [shown (Markup.escape item.message), if item.passed then "✓ PASS" else "✗ FAIL"]

def items (demand : Demand) (list : List Item) : List String :=
  if list.isEmpty then []
  else
    let passed := (list.filter Item.passed).length
    heading demand ::
      Table.lines panelWidth (["Requirement", "Result"] :: list.map item) ++
      title (toString passed ++ "/" ++ toString list.length ++ " passed")

def report (report : Report) : List String :=
  let lines := Demand.all.flatMap fun demand => items demand (report.get demand)
  if lines.isEmpty then ["No requirements defined"] else lines

def location (failure : ParseFailure) : String :=
  match failure.line with
  | none => ""
  | some line =>
    let column := match failure.column with
      | some column => ", column " ++ toString column
      | none => ""
    " [dim](line " ++ toString line ++ column ++ ")[/dim]"

def failure (failure : ParseFailure) : List String :=
  "Invalid code" :: wrapped panelWidth (shown
    (Markup.escape failure.message ++ location failure ++ "\n\nNothing could be graded."))

def outcome : Outcome → List String
  | .graded graded => report graded
  | .unparsed unparsed => failure unparsed

def summary (set : RequirementSet) (name : String) (depth : Int) :
    Except Unshowable (List String) := do
  let depth ← Text.decimal depth
  return title ("[bold]Requirements: " ++ Markup.escape name ++ "[/bold]") ++
    Table.lines (panelWidth - rules 3) (["Category", "Requirements", "Checks"] ::
      Demand.all.map fun demand =>
        [demand.key, toString (set.count demand), demand.description]) ++
    title ("recursion depth " ++ depth)

/-- The cells of a kind of a vocabulary. Field names are markup. -/
def kind (kind : Kind) : Except Markup.Fault (List String) := do
  let fields := ", ".intercalate kind.bodyFields
  let fields ← Markup.plain (if fields.isEmpty then "-" else fields)
  return [shown (Markup.escape kind.name), kind.category.name, if kind.structural then "✓" else "",
    fields]

def vocabulary (vocabulary : Vocabulary) : Except Markup.Fault (List String) :=
  (vocabulary.kinds.mapM kind).map fun rows =>
    Table.lines (terminalWidth - rules 4)
      (["Node type", "Category", "Structural", "Statement fields"] :: rows)

end Rubric.Display
