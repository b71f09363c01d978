import Rubric.Json.Writer
import Rubric.Outcome
import Rubric.Toml.Writer

/-!
# Outcomes as texts

An outcome is exported as JSON, for other programs, or as a TOML file. A number with too many digits
to be written cannot be exported.
-/

namespace Rubric.Outcome

def json? (layout : Json.Layout) (outcome : Outcome) : Option String :=
  if outcome.toValue.isOversized then none else some (Json.render layout outcome.toValue)

def toml? (outcome : Outcome) : Option String :=
  if outcome.toValue.isOversized then none else some (Toml.render outcome.members)

end Rubric.Outcome
