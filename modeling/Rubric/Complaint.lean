/-!
# Complaints

A complaint says where in a value something is wrong and what. Reading a value collects all its
complaints: those of the declared fields in order, then those about keys nobody asked for.
-/

namespace Rubric

inductive Step where
  | key (name : String)
  | index (n : Nat)
deriving DecidableEq

inductive Problem where
  | notAnObject
  | notAString
  | tooShort
  | missing
  | notAList
  | unreadableInteger
  /-- It is a number too large, or spelled with too many characters, to be taken for an integer. -/
  | oversizedInteger
  | fraction
  | notFinite
  | notAnInteger
  | notPositive
  | notListed
  | unreadableTruth
  | notATruth
  | notTheWord
  | unexpectedKey
  | tooDeep
deriving DecidableEq

def Problem.code : Problem → String
  | .notAnObject => "model_type"
  | .notAString => "string_type"
  | .tooShort => "string_too_short"
  | .missing => "missing"
  | .notAList => "tuple_type"
  | .unreadableInteger => "int_parsing"
  | .oversizedInteger => "int_parsing_size"
  | .fraction => "int_from_float"
  | .notFinite => "finite_number"
  | .notAnInteger => "int_type"
  | .notPositive => "greater_than"
  | .notListed => "enum"
  | .unreadableTruth => "bool_parsing"
  | .notATruth => "bool_type"
  | .notTheWord => "literal_error"
  | .unexpectedKey => "extra_forbidden"
  | .tooDeep => "recursion_loop"

structure Complaint where
  path : List Step
  problem : Problem
deriving DecidableEq

def Complaint.within (step : Step) (complaint : Complaint) : Complaint :=
  { complaint with path := step :: complaint.path }

/-- What reading a value gives: the result, or at least one complaint. -/
abbrev Checked (α : Type) := Except (List Complaint) α

namespace Checked

def fail {α : Type} (problem : Problem) : Checked α :=
  .error [⟨[], problem⟩]

def map {α β : Type} (f : α → β) : Checked α → Checked β
  | .ok x => .ok (f x)
  | .error e => .error e

/-- Applies what one reading gives to what another gives, or keeps the complaints of both. -/
def apply {α β : Type} : Checked (α → β) → Checked α → Checked β
  | .ok f, .ok x => .ok (f x)
  | .ok _, .error e => .error e
  | .error e, .ok _ => .error e
  | .error d, .error e => .error (d ++ e)

/-- The result, unless there are further complaints. -/
def butFor {α : Type} (result : Checked α) (more : List Complaint) : Checked α :=
  match result, more with
  | .ok x, [] => .ok x
  | .ok _, more => .error more
  | .error e, more => .error (e ++ more)

def within {α : Type} (step : Step) : Checked α → Checked α
  | .ok x => .ok x
  | .error e => .error (e.map (Complaint.within step))

end Checked

end Rubric
