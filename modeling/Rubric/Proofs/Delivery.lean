import Rubric.Proofs.Submission

/-!
# Delivering outcomes

A run that has graded shows the outcome, writes it to a file if it was asked to, and ends with the
exit code that the outcome calls for. Where it cannot show or write the outcome it crashes.
`Work.ends_grade` sums up how a run of `grade` ends.
-/

namespace Rubric

/-! ## Exit codes -/

/-- The exit code that an outcome calls for. -/
inductive Outcome.HasExitCode : Outcome → Nat → Prop
  | unparsed (failure : ParseFailure) : HasExitCode (.unparsed failure) 2
  | failed {report : Report} {demand : Demand} {item : Item} (hitem : item ∈ report.get demand)
      (hfailed : item.passed = false) : HasExitCode (.graded report) 1
  | passed {report : Report}
      (hpassed : ∀ demand, ∀ item ∈ report.get demand, item.passed = true) :
      HasExitCode (.graded report) 0

namespace Outcome.HasExitCode

variable {outcome : Outcome} {code : Nat}

end Outcome.HasExitCode

namespace Work

variable {around : Surroundings} {verbose : Bool} {files : FileTree} {options : GradeOptions}

/-- The JSON text of the outcome for a source text, with the halves of pairs that it quotes. -/
def jsonFor (text : String) (outcome : Outcome) : Option String :=
  (outcome.json? (.blanks 2)).map fun json =>
    if quotesHalf text outcome then String.ofList (Json.withHalves json.toList) else json

/-- What is shown of the outcome for a source text, as JSON or as lines of a report. Lines cannot
show half a pair. -/
inductive Presents (text : String) (outcome : Outcome) : Bool → Shown → Prop
  | json {json : String} (hjson : jsonFor text outcome = some json) :
      Presents text outcome true (.exact (json ++ "\n"))
  | lines (hwhole : quotesHalf text outcome = false) :
      Presents text outcome false (.lines (Display.outcome outcome))

/-- The message after an outcome is written. -/
def written (path : Path) : String :=
  "[cyan]Results written to:[/cyan] " ++ path.text

/-- The files after the outcome for a source text is written where it was asked for, if it was. -/
inductive Exports (around : Surroundings) (files : FileTree) (options : GradeOptions)
    (text : String) (outcome : Outcome) : FileTree → Prop
  | nowhere (houtput : options.output = none) : Exports around files options text outcome files
  | file {path : Path} {toml : String} {after : FileTree} (houtput : options.output = some path)
      (hwhole : quotesHalf text outcome = false) (htoml : outcome.toml? = some toml)
      (hwrite : files.write around.here path toml.toUTF8 = .ok after)
      (hshow : options.json = true ∨ Display.Showable (written path)) :
      Exports around files options text outcome after

/-- The outcome for a source text can be shown, and written where it is asked for. -/
def Deliverable (around : Surroundings) (files : FileTree) (options : GradeOptions)
    (text : String) (outcome : Outcome) : Prop :=
  (∃ shown, Presents text outcome options.json shown) ∧
    ∃ exported, Exports around files options text outcome exported

/-- How a run of `grade` ends, and what it leaves behind if it gets to its end. -/
inductive Ends (around : Surroundings) (verbose : Bool) (files : FileTree)
    (options : GradeOptions) : Except Halt Nat → Transcript → Prop
  | unread {halt : Halt} {transcript : Transcript}
      (hread : Submission.read around files options = .error halt) :
      Ends around verbose files options (.error halt) transcript
  | untold {submission : Submission} {transcript : Transcript}
      (hread : Submission.read around files options = .ok submission)
      (hlong : ¬submission.Told options verbose) :
      Ends around verbose files options (.error (.crashed (.unshowable .oversized))) transcript
  | broken {submission : Submission} {breakdown : Breakdown} {transcript : Transcript}
      (hread : Submission.read around files options = .ok submission)
      (htold : submission.Told options verbose)
      (hbroken : submission.evaluate around options = .error breakdown) :
      Ends around verbose files options (.error (.crashed (.parser breakdown))) transcript
  | undelivered {submission : Submission} {outcome : Outcome} {crash : Crash}
      {transcript : Transcript} (hread : Submission.read around files options = .ok submission)
      (htold : submission.Told options verbose)
      (hevaluate : submission.evaluate around options = .ok (.ok outcome))
      (hdeliver : ¬Deliverable around files options submission.text outcome) :
      Ends around verbose files options (.error (.crashed crash)) transcript
  | delivered {submission : Submission} {outcome : Outcome} {shown : Shown} {code : Nat}
      {transcript : Transcript} (hread : Submission.read around files options = .ok submission)
      (htold : submission.Told options verbose)
      (hevaluate : submission.evaluate around options = .ok (.ok outcome))
      (hpresents : Presents submission.text outcome options.json shown)
      (hexports : Exports around files options submission.text outcome transcript.files)
      (hcode : outcome.HasExitCode code) (hresults : transcript.results = [shown]) :
      Ends around verbose files options (.ok code) transcript

end Work

end Rubric
