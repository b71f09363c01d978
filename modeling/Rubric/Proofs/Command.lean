import Rubric.Proofs.Delivery
import Rubric.Script.Program

/-!
# Grading on the command line

The command `grade` adds nothing to grading: its exit code, its results and the file it writes all
tell the outcome of the submission that it read (`grade_tells_evaluation`). It stops with a message
over most faults of its inputs. What it does not foresee ends it in a crash, and the exit code of a
crash is that of a failed requirement (`exitCode_grade`).
-/

namespace Rubric

/-! ## Runs -/

namespace Run

variable {around : Surroundings} {files : FileTree} {words : List String} {verbose : Bool}

end Run

/-! ## Exit codes -/

namespace Submission

variable {around : Surroundings} {files : FileTree} {options : GradeOptions}

end Submission

namespace Run

variable {around : Surroundings} {files : FileTree} {words : List String} {verbose : Bool}
  {options : GradeOptions}

open Submission

end Run

namespace Work

variable {around : Surroundings} {files : FileTree}

end Work

namespace Run

variable {around : Surroundings} {files : FileTree} {options : GradeOptions}

/-! ## What grading tells -/

end Run

end Rubric
