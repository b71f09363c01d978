import Rubric.CommandLine
import Rubric.Display
import Rubric.Event
import Rubric.Export
import Rubric.RequirementFile
import Rubric.Settings
import Rubric.Text.Half

/-!
# Running commands

A run reads the settings and files it needs from a file tree. It leaves behind what it showed, the
events on the way and the file tree with what it wrote, together with an exit code. Messages are
shown apart from results.
-/

namespace Rubric

/-- A fault for which a run has no message of its own. -/
inductive Crash where
  | notText
  | markup (fault : Markup.Fault)
  | parser (breakdown : Breakdown)
  | file (fault : FileFault)
  | unshowable (unshowable : Unshowable)
  | brokenPair  -- half a pair on its own
  | requirements (fault : RequirementFileFault)
  | settings (fault : SettingsFault)

inductive Shown where
  | lines (lines : List String)
  | exact (text : String)

/-- What a run has shown, noted and written so far. -/
structure Transcript where
  results : List Shown := []
  messages : List String := []
  events : List Event := []
  files : FileTree := {}

inductive Halt where
  | refused  -- a message has said why
  | crashed (crash : Crash)

/-- How a run ended. -/
inductive Run where
  | misused
  | helped
  | crashed (crash : Crash)
  | finished (exitCode : Nat) (verbose : Bool) (transcript : Transcript)

/-- What a run finds: the working directory, the text on standard input, parsers, and how much room
there is. -/
structure Surroundings where
  here : List String
  input : String
  parser : Goal → Vocabulary → Parser
  bounds : Bounds

/-- A part of a run. -/
abbrev Work (α : Type) := ExceptT Halt (StateM Transcript) α

namespace Work

/-! ## Showing -/

def say (markup : String) : Work Unit :=
  match Display.printed markup with
  | .ok lines =>
    modify fun transcript => { transcript with messages := transcript.messages ++ lines }
  | .error fault => throw (.crashed (.markup fault))

def sayLines (lines : List String) : Work Unit :=
  modify fun transcript => { transcript with messages := transcript.messages ++ lines }

def present (shown : Shown) : Work Unit :=
  modify fun transcript => { transcript with results := transcript.results ++ [shown] }

/-- Notes events. If they are shown as well, one that cannot be ends the run. -/
def note (around : Surroundings) (shown : Bool) (events : List Event) : Work Unit :=
  match shown, events.mapM (Event.message around.bounds) with
  | true, .error unshowable => throw (.crashed (.unshowable unshowable))
  | _, _ => modify fun transcript => { transcript with events := transcript.events ++ events }

/-- A result. What was ignored on the way to it is always shown. -/
def heed {α : Type} (around : Surroundings) (noted : Noted α) : Work α := do
  note around true (noted.warnings.map .ignored)
  match noted.result with
  | .ok result => return result
  | .error unshowable => throw (.crashed (.unshowable unshowable))

def refuse {α : Type} (markup : String) : Work α := do
  say ("[red]✗ " ++ markup ++ "[/red]")
  throw .refused

/-! ## Reading and writing -/

def settings (around : Surroundings) : Work Settings := do
  match Settings.inForce around.bounds (← get).files around.here with
  | .ok settings => return settings
  | .error fault =>
    match fault.message? with
    | some message => refuse (Markup.escape message)
    | none => throw (.crashed (.settings fault))

def document (around : Surroundings) (verbose : Bool) (path : Path) : Work Document := do
  match RequirementFile.load around.bounds (← get).files around.here path with
  | .ok document =>
    note around verbose [.loaded document path]
    return document
  | .error fault =>
    match RequirementFile.message? path fault with
    | some message => refuse (Markup.escape message)
    | none => throw (.crashed (.requirements fault))

def universalNewlines : List Char → List Char
  | '\r' :: '\n' :: rest => '\n' :: universalNewlines rest
  | '\r' :: rest => '\n' :: universalNewlines rest
  | c :: rest => c :: universalNewlines rest
  | [] => []

/-- The source text: standard input, as it is, if it is called `-`. -/
def source (around : Surroundings) (name : String) : Work String := do
  if name == "-" then
    return around.input
  else
    let path := Path.ofText name
    match (← get).files.read around.here path with
    | .ok bytes =>
      match String.fromUTF8? bytes with
      | some text => return String.ofList (universalNewlines text.toList)
      | none => throw (.crashed .notText)
    | .error fault =>
      match fault.message? path with
      | some message =>
        refuse ("Cannot read source file " ++ Markup.escape name ++ ": " ++ Markup.escape message)
      | none => throw (.crashed (.file fault))

def parsed (around : Surroundings) (engine : Engine) (text : String) :
    Work (Except SyntaxFault Node) :=
  match around.parser engine.goal engine.vocabulary text with
  | .ok parsed => return parsed
  | .error breakdown => throw (.crashed (.parser breakdown))

/-- Whether the outcome for a source text quotes half a pair from it, which is no character. -/
def quotesHalf (text : String) : Outcome → Bool
  | .graded _ => false
  | .unparsed failure => Text.quotesHalf text failure.message

/-- Stops if the outcome for a source text quotes half a pair from it. -/
def requireWhole (text : String) (outcome : Outcome) : Work Unit :=
  if quotesHalf text outcome then throw (.crashed .brokenPair) else return ()

def write (around : Surroundings) (verbose : Bool) (path : Path) (text : String)
    (outcome : Outcome) : Work Unit := do
  requireWhole text outcome
  match outcome.toml? with
  | none => throw (.crashed (.unshowable .oversized))
  | some toml =>
    let transcript ← get
    match transcript.files.write around.here path toml.toUTF8 with
    | .ok files => set { transcript with files }
    | .error fault => throw (.crashed (.file fault))
    note around verbose [.exported path]

/-! ## Commands -/

def warnAbout (warning : String) (types : List String) : Work Unit :=
  if types.isEmpty then return ()
  else say ("[yellow]⚠ " ++ warning ++ ":[/yellow] " ++ ", ".intercalate types)

/-- Warns about types that no program has, and about parents that never hold statements. -/
def warn (set : RequirementSet) : Work Unit := do
  warnAbout "Unknown node type(s), these requirements can never match"
    (Vocabulary.standard.unknownTypes set.nodeTypes)
  warnAbout "Structure parent type(s) that never contain statements"
    (Vocabulary.standard.nonStructuralTypes set.parentTypes)

/-- Says something unless the results go to another program. -/
def sayUnless (quiet : Bool) (markup : String) : Work Unit :=
  if quiet then return () else say markup

def verdict (quiet : Bool) : Outcome → Work Nat
  | .unparsed _ => return 2
  | .graded report => do
    if report.passed then
      sayUnless quiet "[green]✓ All requirements passed[/green]"
      return 0
    else
      sayUnless quiet "[red]✗ Some requirements failed[/red]"
      return 1

/-- The JSON text of the outcome for a source text. It can hold half a pair. -/
def jsonText (text : String) (outcome : Outcome) : Work String := do
  match outcome.json? (.blanks 2) with
  | none => throw (.crashed (.unshowable .oversized))
  | some json =>
    return if quotesHalf text outcome then String.ofList (Json.withHalves json.toList) else json

/-- Shows the results of the outcome for a source text. -/
def presentOutcome (json : Bool) (text : String) (outcome : Outcome) : Work Unit := do
  if json then present (.exact ((← jsonText text outcome) ++ "\n"))
  else
    requireWhole text outcome
    present (.lines (Display.outcome outcome))

/-- Grades a source text. What the command line leaves open is taken from the requirement file, then
from the settings. -/
def grade (around : Surroundings) (verbose : Bool) (options : GradeOptions) : Work Nat := do
  let settings ← settings around
  match options.requirements.or settings.requirements with
  | none =>
    refuse (Markup.escape
      "No requirements file given. Use --requirements or set [tool.proctor].requirements")
  | some path =>
    sayUnless options.json ("[cyan]Loading requirements from:[/cyan] " ++ path.text)
    let document ← document around verbose path
    let requirements ← heed around (document.toSet around.bounds)
    warn requirements
    let depth := ((options.depth.or document.depth).or settings.depth).getD .standard
    let goal := if options.asModule then .module
      else (document.goal.or settings.goal).getD .script
    -- The source is read last, when all has been said of the requirements.
    let text ← source around options.source
    -- The event shows the depth, which may have too many digits for that.
    note around verbose [.grading options.source depth goal]
    let engine ← heed around
      (Engine.build around.bounds (some (.set requirements)) (some (.int depth.val)) goal .standard)
    let parsed ← parsed around engine text
    let outcome := Grading.conclude engine.requirements engine.depth parsed
    note around verbose (Event.ofParse engine parsed)
    presentOutcome options.json text outcome
    match options.output with
    | none => pure ()
    | some output =>
      write around verbose output text outcome
      sayUnless options.json ("[cyan]Results written to:[/cyan] " ++ output.text)
    verdict options.json outcome

def check (around : Surroundings) (verbose : Bool) (requirements : Option Path) : Work Nat := do
  let settings ← settings around
  match requirements.or settings.requirements with
  | none => refuse "No requirements file given"
  | some path =>
    let document ← document around verbose path
    let depth := (document.depth.or settings.depth).getD .standard
    let requirements ← heed around (document.toSet around.bounds)
    match Display.summary requirements path.name depth.val with
    | .ok lines => sayLines lines
    | .error unshowable => throw (.crashed (.unshowable unshowable))
    warn requirements
    say "[green]✓ Requirements are valid[/green]"
    return 0

def vocabulary : Work Nat := do
  match Display.vocabulary .standard with
  | .ok lines =>
    present (.lines lines)
    return 0
  | .error fault => throw (.crashed (.markup fault))

def command (around : Surroundings) (verbose : Bool) : Command → Work Nat
  | .grade options => grade around verbose options
  | .check requirements => check around verbose requirements
  | .vocabulary => vocabulary

end Work

namespace Run

def refusedCode : Nat := 2

/-- Runs a command line on a file tree. A path that cannot be one ends the run at once. -/
def ofWords (around : Surroundings) (files : FileTree) (words : List String) : Run :=
  match CommandLine.read words with
  | none => .misused
  | some .help => .helped
  | some (.command verbose command) =>
    if command.givenPaths.any fun path => FileTree.flaw? path == some .unusablePath then
      .crashed (.file .unusablePath)
    else
      match (Work.command around verbose command).run.run { files } with
      | (.ok code, transcript) => .finished code verbose transcript
      | (.error .refused, transcript) => .finished refusedCode verbose transcript
      | (.error (.crashed crash), _) => .crashed crash

def exitCode : Run → Nat
  | .misused => 2
  | .helped => 0
  | .crashed _ => 1
  | .finished code _ _ => code

end Run

end Rubric
