import Rubric.Engine

/-!
# Sessions

A session works on requirement sets and engines under names. An engine and a name may share one set:
what is done to it under either then shows under both, until the engine takes over another set. So
sets are kept by number, and objects refer to the number.
-/

namespace Rubric

namespace Session

inductive Object where
  | set (number : Nat)
  | engine (number : Nat) (conditions : Conditions)

/-- Where a new engine, or an assignment to one, takes its set from. -/
inductive Origin where
  | name (id : String)
  | value (value : Value)  -- never a set

inductive Step where
  | newSet (id : String) (must mustNot structures : Value)
  | setFromValue (id : String) (data : Value)
  | newEngine (id : String) (origin : Option Origin) (depth goal : Option Value)
      (vocabulary : Vocabulary)
  | engineFromValue (id : String) (configuration : Value) (vocabulary : Vocabulary)
  | setMust (id : String) (value : Value)
  | setMustNot (id : String) (value : Value)
  | setStructures (id : String) (value : Value)
  | state (id : String)
  | literal (id : String)
  | get (id : String) (demand : Value)
  | nodeTypes (id : String)
  | parentTypes (id : String)
  | isEmpty (id : String)
  | copy (id target : String)
  | equal (id : String) (other : Origin)
  | takeRequirements (id target : String)
  | assignRequirements (id : String) (origin : Origin)
  | setDepth (id : String) (value : Value)
  | unknownTypes (id : String)
  | grade (id : String) (text : String)
  | gradeAll (id : String) (texts : List String)

inductive Answer where
  | set (set : RequirementSet)
  | engine (engine : Engine)
  | collection (demand : Demand) (set : RequirementSet)
  | text (text : String)
  | types (types : List String)
  | truth (b : Bool)
  | depth (depth : Depth)
  | outcome (outcome : Outcome)
  | outcomes (outcomes : List Outcome)

inductive Fault where
  | unknownName
  | wrongObject  -- the other sort of object
  | noMapping  -- the value describes no set
  | invalidGoal (value : Value)
  | invalidDemand (value : Value)
  | breakdown (breakdown : Breakdown)
  | unshowable (unshowable : Unshowable)

end Session

/-- Requirement sets and engines under names. -/
structure Session where
  /-- Every set made so far; its number is its position. -/
  sets : List RequirementSet := []
  objects : String → Option Session.Object := fun _ => none

namespace Session

def setAt (session : Session) (number : Nat) : RequirementSet :=
  session.sets.getD number {}

def engineAt (session : Session) (number : Nat) (conditions : Conditions) : Engine :=
  { toConditions := conditions, requirements := session.setAt number }

/-- Grades a source text with the engine of a set and conditions. -/
def gradeAt (session : Session) (number : Nat) (conditions : Conditions)
    (parser : Goal → Vocabulary → Parser) (text : String) : Except Fault Outcome :=
  ((session.engineAt number conditions).grade parser text).mapError .breakdown

def define (session : Session) (id : String) (object : Object) : Session :=
  { session with
    objects := fun name => if name == id then some object else session.objects name }

def add (session : Session) (set : RequirementSet) : Session × Nat :=
  ({ session with sets := session.sets ++ [set] }, session.sets.length)

def defineSet (session : Session) (id : String) (set : RequirementSet) : Session :=
  let (session, number) := session.add set
  session.define id (.set number)

/-- Lets a name stand for a new engine with a set of its own. -/
def defineEngine (session : Session) (id : String) (engine : Engine) : Session :=
  let (session, number) := session.add engine.requirements
  session.define id (.engine number engine.toConditions)

def putSet (session : Session) (number : Nat) (set : RequirementSet) : Session :=
  { session with sets := session.sets.set number set }

def find (session : Session) (id : String) : Except Fault Object :=
  match session.objects id with
  | some object => .ok object
  | none => .error .unknownName

/-- The number of the set under a name that stands for a set. -/
def findSet (session : Session) (id : String) : Except Fault Nat := do
  match ← session.find id with
  | .set number => return number
  | .engine .. => throw .wrongObject

/-- The set number and conditions under a name that stands for an engine. -/
def findEngine (session : Session) (id : String) : Except Fault (Nat × Conditions) := do
  match ← session.find id with
  | .engine number conditions => return (number, conditions)
  | .set _ => throw .wrongObject

def Object.number : Object → Nat
  | .set number => number
  | .engine number _ => number

/-- What a step does: the session after it, and its answer with the warnings. -/
structure Effect where
  session : Session
  answer : Except Fault Answer
  warnings : List Warning := []

def answered (session : Session) (answer : Except Fault Answer) : Effect :=
  ⟨session, answer, []⟩

/-- Goes on with a result. Without one the session stays as it is. -/
def heed {α : Type} (session : Session) (noted : Noted α)
    (next : α → Session × Except Fault Answer) : Effect :=
  match noted.result with
  | .ok result => ⟨(next result).1, (next result).2, noted.warnings⟩
  | .error unshowable => ⟨session, .error (.unshowable unshowable), noted.warnings⟩

section

variable (bounds : Bounds)

def offer (session : Session) : Origin → Except Fault Engine.Offer
  | .value value => .ok (.other (value.shown bounds.shownValues))
  | .name id => do
    match ← session.find id with
    | .set number => return .set (session.setAt number)
    | .engine number conditions =>
      return .other ((session.engineAt number conditions).shown bounds)

def offerAnew (session : Session) : Option Origin → Except Fault (Option Engine.Offer)
  | none => .ok none
  | some (.value .null) => .ok none
  | some origin => (session.offer bounds origin).map some

/-- Applies a setter to the set that a name stands for or whose engine it stands for. -/
def update (session : Session) (id : String) (demand : Demand)
    (change : RequirementSet → Noted RequirementSet) : Effect :=
  match session.find id with
  | .error fault => session.answered (.error fault)
  | .ok object => session.heed (change (session.setAt object.number)) fun set =>
    (session.putSet object.number set, .ok (.collection demand set))

/-- Makes an engine under a name. The goal is looked at last. -/
def makeEngine (session : Session) (id : String) (offer : Option Engine.Offer)
    (depth goal : Option Value) (vocabulary : Vocabulary) : Effect :=
  let goalValue := goal.getD (.string Goal.script.name)
  match Goal.ofValue? goalValue with
  | some goal => session.heed (Engine.build bounds offer depth goal vocabulary) fun engine =>
    (session.defineEngine id engine, .ok (.engine engine))
  | none => session.heed (Engine.build bounds offer depth .script vocabulary) fun _ =>
    (session, .error (.invalidGoal goalValue))

def takeOver (session : Session) (id : String) (number : Nat) (conditions : Conditions)
    (offer : Engine.Offer) : Effect :=
  session.heed ((session.engineAt number conditions).assign bounds offer) fun engine =>
    match offer with
    | .set _ => (session.defineEngine id engine, .ok (.engine engine))
    | .other _ => (session, .ok (.engine engine))

end

/-- Whether two names stand for equal sets or for the same engine. -/
def equalObjects (session : Session) (id other : String) : Except Fault Bool := do
  match ← session.find id, ← session.find other with
  | .set a, .set b => return session.setAt a == session.setAt b
  | .engine .., .engine .. => return id == other
  | _, _ => return false

def makeSet (session : Session) (id : String) (made : Noted RequirementSet) : Effect :=
  session.heed made fun set => (session.defineSet id set, .ok (.set set))

/-- Does one step, with a parser for each goal and vocabulary. -/
def step (bounds : Bounds) (parser : Goal → Vocabulary → Parser) (session : Session) :
    Step → Effect
  | .newSet id must mustNot structures =>
    session.makeSet id (RequirementSet.ofGiven bounds must mustNot structures)
  | .setFromValue id data =>
    match RequirementSet.ofValue? bounds data with
    | some made => session.makeSet id made
    | none => session.answered (.error .noMapping)
  | .newEngine id origin depth goal vocabulary =>
    match session.offerAnew bounds origin with
    | .ok offer => session.makeEngine bounds id offer depth goal vocabulary
    | .error fault => session.answered (.error fault)
  | .engineFromValue id configuration vocabulary =>
    session.heed (Engine.ofConfiguration bounds configuration vocabulary) fun engine =>
      (session.defineEngine id engine, .ok (.engine engine))
  | .setMust id value => session.update id .must (·.setMust bounds value)
  | .setMustNot id value => session.update id .mustNot (·.setMustNot bounds value)
  | .setStructures id value => session.update id .structures (·.setStructures bounds value)
  | .state id => session.answered do
    match ← session.find id with
    | .set number => return .set (session.setAt number)
    | .engine number conditions => return .engine (session.engineAt number conditions)
  | .literal id => session.answered do
    let shown := match ← session.find id with
      | .set number => (session.setAt number).shown bounds
      | .engine number conditions => (session.engineAt number conditions).shown bounds
    return .text (← shown.mapError .unshowable)
  | .get id demand => session.answered do
    let number ← session.findSet id
    match Demand.ofValue? demand with
    | some demand => return .collection demand (session.setAt number)
    | none => throw (.invalidDemand demand)
  | .nodeTypes id => session.answered do
    return .types (session.setAt (← session.findSet id)).nodeTypes
  | .parentTypes id => session.answered do
    return .types (session.setAt (← session.findSet id)).parentTypes
  | .isEmpty id => session.answered do
    return .truth (session.setAt (← session.findSet id)).isEmpty
  | .copy id target =>
    match session.findSet id with
    | .ok number => session.makeSet target ((session.setAt number).copy bounds)
    | .error fault => session.answered (.error fault)
  | .equal id (.name other) => session.answered ((session.equalObjects id other).map .truth)
  | .equal id (.value _) => session.answered ((session.find id).map fun _ => .truth false)
  | .takeRequirements id target =>
    match session.findEngine id with
    | .ok (number, _) =>
      ⟨session.define target (.set number), .ok (.set (session.setAt number)), []⟩
    | .error fault => session.answered (.error fault)
  | .assignRequirements id origin =>
    match session.findEngine id, session.offer bounds origin with
    | .ok (number, conditions), .ok offer => session.takeOver bounds id number conditions offer
    -- A missing name is told before a name for the wrong sort of object.
    | .error .unknownName, _ => session.answered (.error .unknownName)
    | _, .error fault => session.answered (.error fault)
    | .error fault, _ => session.answered (.error fault)
  | .setDepth id value =>
    match session.findEngine id with
    | .ok (number, conditions) => session.heed (conditions.setDepth bounds value) fun changed =>
      (session.define id (.engine number changed), .ok (.depth changed.depth))
    | .error fault => session.answered (.error fault)
  | .unknownTypes id => session.answered do
    let (number, conditions) ← session.findEngine id
    return .types (session.engineAt number conditions).unknownTypes
  | .grade id text => session.answered do
    let (number, conditions) ← session.findEngine id
    return .outcome (← session.gradeAt number conditions parser text)
  | .gradeAll id texts => session.answered do
    let (number, conditions) ← session.findEngine id
    return .outcomes (← texts.mapM (session.gradeAt number conditions parser))

end Session

end Rubric
