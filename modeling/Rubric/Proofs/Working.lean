import Rubric.Proofs.Escape
import Rubric.Proofs.Showing
import Rubric.Run

/-!
# What parts of a run come to

Much of a run only reads: it looks at files and speaks of them, and leaves results and files alone.
What such a part comes to does not depend on what has been shown before, so it is told as a value
(`ComesTo`). Parts in sequence come to the sequence of their values.
-/

namespace Rubric

/-- More has been shown or noted, but results and files are as they were. -/
structure Transcript.GoesOn (before after : Transcript) : Prop where
  results : after.results = before.results
  files : after.files = before.files
  messages : before.messages <+: after.messages

theorem Transcript.GoesOn.refl (transcript : Transcript) : transcript.GoesOn transcript :=
  ⟨rfl, rfl, List.prefix_rfl⟩

theorem Transcript.GoesOn.trans {first second third : Transcript} (h : first.GoesOn second)
    (h' : second.GoesOn third) : first.GoesOn third :=
  ⟨h'.results.trans h.results, h'.files.trans h.files, h.messages.trans h'.messages⟩

namespace Work

variable {α β : Type} {files : FileTree}

/-! ## Sequences -/

theorem run_bind (work : Work α) (next : α → Work β) (before : Transcript) :
    (work >>= next).run.run before = match work.run.run before with
      | (.ok x, after) => (next x).run.run after
      | (.error halt, after) => (.error halt, after) := by
  show (match work.run.run before with
    | (ending, after) => ExceptT.bindCont next ending after) = _
  rcases work.run.run before with ⟨_ | _, _⟩ <;> rfl

theorem run_bind_of_ok {work : Work α} {before after : Transcript} {x : α}
    (h : work.run.run before = (.ok x, after)) (next : α → Work β) :
    (work >>= next).run.run before = (next x).run.run after := by
  rw [run_bind, h]

theorem run_bind_of_error {work : Work α} {before after : Transcript} {halt : Halt}
    (h : work.run.run before = (.error halt, after)) (next : α → Work β) :
    (work >>= next).run.run before = (.error halt, after) := by
  rw [run_bind, h]

/-- A part of a run comes to a value or halts, whatever was shown before, and only shows messages
and notes events. -/
def ComesTo (files : FileTree) (work : Work α) (ending : Except Halt α) : Prop :=
  ∀ before : Transcript, before.files = files →
    ∃ after, work.run.run before = (ending, after) ∧ before.GoesOn after

/-- A part that comes to a value without fail may be left out. -/
theorem ComesTo.andThen {work : Work α} {x : α} (h : ComesTo files work (.ok x))
    {next : α → Work β} {ending : Except Halt β} (hnext : ComesTo files (next x) ending) :
    ComesTo files (work >>= next) ending := by
  intro before hbefore
  obtain ⟨between, hrun, hgoes⟩ := h before hbefore
  obtain ⟨after, hrun', hgoes'⟩ := hnext between (hgoes.files.trans hbefore)
  exact ⟨after, (run_bind_of_ok hrun next).trans hrun', hgoes.trans hgoes'⟩

/-- What follows a part that halts is not reached. -/
theorem ComesTo.halts {work : Work α} {halt : Halt} (h : ComesTo files work (.error halt))
    (next : α → Work β) : ComesTo files (work >>= next) (.error halt) := by
  intro before hbefore
  obtain ⟨after, hrun, hgoes⟩ := h before hbefore
  exact ⟨after, run_bind_of_error hrun next, hgoes⟩

theorem ComesTo.bind {work : Work α} {ending : Except Halt α} {next : α → Work β}
    {endings : α → Except Halt β} (h : ComesTo files work ending)
    (hnext : ∀ x, ending = .ok x → ComesTo files (next x) (endings x)) :
    ComesTo files (work >>= next) (ending >>= endings) := by
  cases ending with
  | error halt => exact h.halts next
  | ok x => exact h.andThen (hnext x rfl)

/-- What showing a message comes to. -/
def showing (markup : String) : Except Halt Unit :=
  match Display.printed markup with
  | .ok _ => .ok ()
  | .error fault => .error (.crashed (.markup fault))

/-- What showing a message comes to, unless the results go to another program. -/
def showingUnless (quiet : Bool) (markup : String) : Except Halt Unit :=
  if quiet then .ok () else showing markup

/-- How a run halts over a fault: it refuses if there is a message, and crashes otherwise. -/
def haltOver (message? : Option String) (crash : Crash) : Halt :=
  match message? with
  | some _ => .refused
  | none => .crashed crash

/-! ## Inputs -/

/-- What reading the settings comes to. -/
def readSettings (around : Surroundings) (files : FileTree) : Except Halt Settings :=
  (Settings.inForce around.bounds files around.here).mapError fun fault =>
    haltOver fault.message? (.settings fault)

/-- What reading a requirement file comes to. -/
def readDocument (around : Surroundings) (files : FileTree) (path : Path) :
    Except Halt Document :=
  (RequirementFile.load around.bounds files around.here path).mapError fun fault =>
    haltOver (RequirementFile.message? path fault) (.requirements fault)

/-- What reading a source text comes to. -/
def readSource (around : Surroundings) (files : FileTree) (name : String) : Except Halt String :=
  if name == "-" then .ok around.input
  else
    match files.read around.here (Path.ofText name) with
    | .error fault => .error (haltOver (fault.message? (Path.ofText name)) (.file fault))
    | .ok bytes =>
      match String.fromUTF8? bytes with
      | none => .error (.crashed .notText)
      | some text => .ok (String.ofList (universalNewlines text.toList))

/-- The messages of a warning about types. -/
def warningsAbout (warning : String) (types : List String) : List String :=
  if types.isEmpty then [] else ["[yellow]⚠ " ++ warning ++ ":[/yellow] " ++ ", ".intercalate types]

/-- The warnings about a requirement set. -/
def warnings (set : RequirementSet) : List String :=
  warningsAbout "Unknown node type(s), these requirements can never match"
      (Vocabulary.standard.unknownTypes set.nodeTypes) ++
    warningsAbout "Structure parent type(s) that never contain statements"
      (Vocabulary.standard.nonStructuralTypes set.parentTypes)

end Work

end Rubric
