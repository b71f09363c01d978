import Rubric.Value.Shown

/-!
# Goals

The goal of a parse: the source text is either a script or a module.
-/

namespace Rubric

inductive Goal where
  | script
  | module
deriving DecidableEq, Inhabited

namespace Goal

def all : List Goal := [.script, .module]

def name : Goal → String
  | .script => "script"
  | .module => "module"

def ofValue? : Value → Option Goal
  | .string word => all.find? (·.name == word)
  | _ => none

def rejection (bounds : Bounds) (value : Value) : Except Unshowable String :=
  (value.shown bounds.shownValues).map (· ++ " is not a valid SourceType")

end Goal

end Rubric
