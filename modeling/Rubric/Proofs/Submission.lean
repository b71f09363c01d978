import Rubric.Proofs.Agreement
import Rubric.Proofs.Exported
import Rubric.Proofs.Tolerance
import Rubric.Proofs.Working

/-!
# Submissions

Grading on the command line has three parts (`Work.grade_eq`): it reads a submission, evaluates it
and delivers the outcome. A submission is what it goes by: the settings, a requirement file with its
document, and the source text. The first two parts come to a value, which is told here in terms of
the files alone; the third shows the outcome and may write it to a file.
-/

namespace Rubric

/-- What a source text is graded by. -/
structure Submission where
  settings : Settings
  path : Path
  document : Document
  text : String

namespace Submission

def requirements (submission : Submission) : RequirementSet :=
  submission.document.requirements

/-- The search depth: the first that is given on the command line, in the document, or in the
settings, and the standard one if none is. -/
def depth (submission : Submission) (options : GradeOptions) : Depth :=
  ((options.depth.or submission.document.depth).or submission.settings.depth).getD .standard

/-- The goal: a module if the command line says so, else the first that is given in the document or
in the settings, and a script if none is. -/
def goal (submission : Submission) (options : GradeOptions) : Goal :=
  if options.asModule then .module
  else (submission.document.goal.or submission.settings.goal).getD .script

/-- The depth has a text, if there is to be one. -/
def Told (submission : Submission) (options : GradeOptions) (verbose : Bool) : Prop :=
  verbose = true → Text.isOversized (submission.depth options).val = false

/-- What the source text is graded to. -/
def evaluate (submission : Submission) (around : Surroundings) (options : GradeOptions) :
    Except Breakdown (Except InvalidDepth Outcome) :=
  Grading.sourceToDepth (around.parser (submission.goal options) .standard)
    submission.requirements (.int (submission.depth options).val) submission.text

def announcement (path : Path) : String :=
  "[cyan]Loading requirements from:[/cyan] " ++ path.text

def read (around : Surroundings) (files : FileTree) (options : GradeOptions) :
    Except Halt Submission :=
  Work.readSettings around files >>= fun settings =>
    match options.requirements.or settings.requirements with
    | none => .error .refused
    | some path =>
      Work.showingUnless options.json (announcement path) >>= fun _ =>
      Work.readDocument around files path >>= fun document =>
      forM (Work.warnings document.requirements) Work.showing >>= fun _ =>
      Work.readSource around files options.source >>= fun text =>
      .ok ⟨settings, path, document, text⟩

end Submission

namespace Work

/-! ## The parts of grading -/

def submission (around : Surroundings) (verbose : Bool) (options : GradeOptions) :
    Work Submission := do
  let settings ← settings around
  match options.requirements.or settings.requirements with
  | none =>
    refuse (Markup.escape
      "No requirements file given. Use --requirements or set [tool.proctor].requirements")
  | some path =>
    sayUnless options.json (Submission.announcement path)
    let document ← document around verbose path
    let requirements ← heed around (document.toSet around.bounds)
    warn requirements
    let text ← source around options.source
    return ⟨settings, path, document, text⟩

section

variable {α β γ : Type}

end

end Work

namespace Submission

/-! ## Inputs that are read -/

variable {around : Surroundings} {files : FileTree} {options : GradeOptions}

end Submission

end Rubric
