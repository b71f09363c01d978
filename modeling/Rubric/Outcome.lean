import Rubric.Checked
import Rubric.Demand
import Rubric.SyntaxFault

/-!
# Outcomes

Grading gives a report with one item per requirement, or a parse failure if there is nothing to
grade. Either can be written as a value and read back.
-/

namespace Rubric

/-- What became of one requirement. The type is given for types that must or must not occur. -/
structure Item where
  type : Option String := none
  passed : Bool
  message : String
deriving DecidableEq

structure Report where
  must : List Item := []
  mustNot : List Item := []
  structures : List Item := []
deriving DecidableEq

/-- The source text could not be parsed, so nothing was graded. -/
structure ParseFailure where
  message : String
  line : Option Int := none
  column : Option Int := none
  index : Option Int := none
deriving DecidableEq

/-- The outcome of grading a source text. -/
inductive Outcome where
  | graded (report : Report)
  | unparsed (failure : ParseFailure)
deriving DecidableEq

namespace Item

/-- A member for each part of an item; a type that is not given is left out. -/
def members (item : Item) : Members :=
  let type := match item.type with
    | some type => [("type", Value.string type)]
    | none => []
  type ++ [("pass", .bool item.passed), ("message", .string item.message)]

def toValue (item : Item) : Value :=
  .object item.members

/-- The field that says whether the requirement passed. -/
def passedField : Checked.Field := { key := "pass", other := some "passed" }

def check : Value → Checked Item
  | .object members =>
    let type := Checked.Field.optional { key := "type" } members none (Checked.orNull Checked.text)
    let passed := passedField.required members Checked.truth
    let message := Checked.Field.required { key := "message" } members Checked.text
    ((type.map Item.mk).apply passed).apply message
  | _ => Checked.fail .notAnObject

end Item

namespace Report

def get (report : Report) : Demand → List Item
  | .must => report.must
  | .mustNot => report.mustNot
  | .structures => report.structures

/-- All items with their kinds, in the order of the kinds. -/
def items (report : Report) : List (Demand × Item) :=
  Demand.all.flatMap fun demand => (report.get demand).map fun item => (demand, item)

def failures (report : Report) : List (Demand × Item) :=
  report.items.filter fun (_, item) => !item.passed

def passed (report : Report) : Bool :=
  report.items.all fun (_, item) => item.passed

def members (report : Report) : Members :=
  Demand.all.map fun demand => (demand.key, .array ((report.get demand).map Item.toValue))

/-- A report as an object with a list for each kind. -/
def toValue (report : Report) : Value :=
  .object report.members

/-- The field with the items of types that must not occur. -/
def mustNotField : Checked.Field := { key := "mustNot", other := some "must_not" }

def check : Value → Checked Report
  | .object members =>
    let must := Checked.Field.optional { key := "must" } members [] (Checked.items Item.check)
    let mustNot := mustNotField.optional members [] (Checked.items Item.check)
    let structures :=
      Checked.Field.optional { key := "structure" } members [] (Checked.items Item.check)
    ((must.map Report.mk).apply mustNot).apply structures
  | _ => Checked.fail .notAnObject

end Report

namespace ParseFailure

def mark : String := "parse"

def ofFault (fault : SyntaxFault) : ParseFailure :=
  ⟨fault.description, fault.line, fault.column, fault.index⟩

def member (key : String) : Option Int → Members
  | some n => [(key, .int n)]
  | none => []

def members (failure : ParseFailure) : Members :=
  [("error", .string mark), ("message", .string failure.message)] ++
    member "line" failure.line ++ member "column" failure.column ++ member "index" failure.index

/-- A parse failure as an object; what is unknown is left out. -/
def toValue (failure : ParseFailure) : Value :=
  .object failure.members

def checkMark : Value → Checked Unit
  | .string word => if word == mark then .ok () else Checked.fail .notTheWord
  | _ => Checked.fail .notTheWord

/-- Reads a parse failure. Further keys do not matter. -/
def check : Value → Checked ParseFailure
  | .object members =>
    let number (key : String) :=
      Checked.Field.optional { key } members none (Checked.orNull Checked.integer)
    let marked := Checked.Field.optional { key := "error" } members () checkMark
    let message := Checked.Field.required { key := "message" } members Checked.text
    ((((marked.map fun _ => ParseFailure.mk).apply message).apply (number "line")).apply
      (number "column")).apply (number "index")
  | _ => Checked.fail .notAnObject

end ParseFailure

namespace Outcome

/-- Whether the source text was graded and every requirement passed. -/
def passed : Outcome → Bool
  | .graded report => report.passed
  | .unparsed _ => false

def members : Outcome → Members
  | .graded report => report.members
  | .unparsed failure => failure.members

def toValue : Outcome → Value
  | .graded report => report.toValue
  | .unparsed failure => failure.toValue

end Outcome

end Rubric
