import Rubric.Depth
import Rubric.Given

/-!
# Warnings

A setter ignores a value that is not fit and says so in a warning. `Noted` pairs a result with the
warnings that arose on the way to it. A warning shows the value, and a value that is nested too deep
for that is the one thing that leaves no result. A number with too many digits only spoils the text
of its warning.
-/

namespace Rubric

inductive Warning where
  | must (given : Given)
  | mustNot (given : Given)
  | structures (given : Given)
  | requirements (shown : Except Unshowable String)  -- offered in place of a set
  | configuration (value : Value)
  | depth (value : Value) (kept : Depth)
  | goal (value : Value)

def Warning.message (bounds : Bounds) : Warning → Except Unshowable String
  | .must given =>
    (given.shown bounds).map ("Ignoring invalid must requirements: " ++ ·)
  | .mustNot given =>
    (given.shown bounds).map ("Ignoring invalid must-not requirements: " ++ ·)
  | .structures given =>
    (given.shown bounds).map ("Ignoring invalid structure requirements: " ++ ·)
  | .requirements shown => shown.map ("Ignoring invalid requirement set: " ++ ·)
  | .configuration value =>
    (value.shown bounds.shownValues).map ("Ignoring invalid engine configuration: " ++ ·)
  | .depth value kept => do
    let text ← value.shown bounds.shownValues
    let kept ← Text.decimal kept.val
    return "Ignoring invalid recursion depth " ++ text ++ ", keeping " ++ kept
  | .goal value => (value.shown bounds.shownValues).map ("Ignoring invalid source type " ++ ·)

/-- A result, unless something could not be shown, and the warnings that arose on the way. -/
structure Noted (α : Type) where
  result : Except Unshowable α
  warnings : List Warning := []

namespace Noted

variable {α β : Type}

def quiet (result : α) : Noted α :=
  ⟨.ok result, []⟩

def warn (bounds : Bounds) (warning : Warning) (result : α) : Noted α :=
  match warning.message bounds with
  | .error .tooDeep => ⟨.error .tooDeep, []⟩
  | _ => ⟨.ok result, [warning]⟩

/-- Goes on with a result and keeps the warnings in order. -/
def andThen (first : Noted α) (next : α → Noted β) : Noted β :=
  match first.result with
  | .ok result =>
    let second := next result
    ⟨second.result, first.warnings ++ second.warnings⟩
  | .error unshowable => ⟨.error unshowable, first.warnings⟩

instance : Monad Noted where
  pure := quiet
  bind := andThen

def mapResult (f : α → β) (noted : Noted α) : Noted β :=
  ⟨noted.result.map f, noted.warnings⟩

end Noted

end Rubric
