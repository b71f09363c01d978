import Rubric.Text.Integer

/-!
# Syntax faults

Why a source text is no program, and where. Lines and columns are counted from one and the index
from zero; each may be unknown. A parser breaks down if it cannot even say what is wrong.
-/

namespace Rubric

/-- A reason why a source text cannot be parsed. -/
structure SyntaxFault where
  description : String
  line : Option Int := none
  column : Option Int := none
  index : Option Int := none
deriving DecidableEq

/-- The description with the line, as far as it is known. -/
def SyntaxFault.message (fault : SyntaxFault) : String :=
  let location := match fault.line with
    | some line => "line " ++ toString line
    | none => "unknown location"
  fault.description ++ " (" ++ location ++ ")"

inductive Breakdown where
  | strayTemplate  -- where an expression must begin
  | oversizedNumber  -- it has too many digits
deriving DecidableEq

def Breakdown.message? : Breakdown → Option String
  | .strayTemplate => none
  | .oversizedNumber => some (Text.tooManyDigits none)

end Rubric
