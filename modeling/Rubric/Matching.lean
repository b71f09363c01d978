import Rubric.Node.Walk
import Rubric.Requirement

/-!
# Matching

Demands for types are served in the order of the nodes: each node serves the first demand for its
type that is still open, so a type listed twice needs two nodes. A structure requirement holds if
some node of its parent type has a body in which every entry gets a statement of its own. The nested
entries are placed first, in every possible way, and the plain types are then served by the
statements left over.
-/

namespace Rubric

namespace Matching

/-- The open demands for one type, by position. -/
structure Queue where
  type : String
  positions : List Nat

def enqueue (position : Nat) (type : String) : List Queue → List Queue
  | [] => [⟨type, [position]⟩]
  | queue :: queues =>
    if queue.type == type then ⟨type, queue.positions ++ [position]⟩ :: queues
    else queue :: enqueue position type queues

def queuesFrom (position : Nat) (queues : List Queue) : List String → List Queue
  | [] => queues
  | type :: types => queuesFrom (position + 1) (enqueue position type queues) types

def take? (type : String) : List Queue → Option (Nat × List Queue)
  | [] => none
  | queue :: queues =>
    if queue.type == type then
      match queue.positions with
      | [] => none
      | position :: positions => some (position, ⟨type, positions⟩ :: queues)
    else (take? type queues).map fun (position, rest) => (position, queue :: rest)

/-- Serves open demands by the nodes in order, until none of them is left or no demand is open. -/
def serve (queues : List Queue) (met : List Bool) (remaining : Nat) : List Node → List Bool
  | [] => met
  | node :: nodes =>
    if remaining == 0 then met
    else
      match take? node.type queues with
      | some (position, queues) => serve queues (met.set position true) (remaining - 1) nodes
      | none => serve queues met remaining nodes

def types (demanded : List String) (nodes : List Node) : List Bool :=
  serve (queuesFrom 0 [] demanded) (demanded.map fun _ => false) demanded.length nodes

/-- All ways to choose from each list of options one that has not been chosen before, after those
claimed already. -/
def placementsFrom {α : Type} [BEq α] (claimed : List α) : List (List α) → List (List α)
  | [] => [claimed]
  | options :: rest =>
    options.flatMap fun option =>
      if claimed.contains option then [] else placementsFrom (claimed ++ [option]) rest

/-- All ways to choose a different option from each list. -/
def placements {α : Type} [BEq α] (options : List (List α)) : List (List α) :=
  placementsFrom [] options

/-- Whether some way to choose passes a test; stops at the first. -/
def anyPlacementFrom {α : Type} [BEq α] (test : List α → Bool) (claimed : List α) :
    List (List α) → Bool
  | [] => test claimed
  | options :: rest =>
    options.any fun option =>
      !claimed.contains option && anyPlacementFrom test (claimed ++ [option]) rest

theorem anyPlacementFrom_eq {α : Type} [BEq α] (test : List α → Bool) (options : List (List α))
    (claimed : List α) :
    anyPlacementFrom test claimed options = (placementsFrom claimed options).any test := by
  induction options generalizing claimed with
  | nil => simp [anyPlacementFrom, placementsFrom]
  | cons head rest ih =>
    simp only [anyPlacementFrom, placementsFrom, List.any_flatMap]
    congr 1
    funext option
    cases claimed.contains option <;> simp [ih]

def leftOver (body : List Node) (claimed : List Nat) : List Node :=
  (body.zipIdx.filter fun (_, position) => !claimed.contains position).map (·.1)

/-- The positions of the statements of a type whose bodies pass a test. -/
def fitting (parent : String) (test : List Node → Bool) (body : List Node) : List Nat :=
  (body.zipIdx.filter fun (child, _) => child.type == parent && test child.children).map (·.2)

def plainTypes : List Entry → List String
  | [] => []
  | .type name :: rest => name :: plainTypes rest
  | .nested .. :: rest => plainTypes rest

/-- Whether the nested entries can be placed so that what is left over serves the plain types. No
options means that some nested entry fits nowhere. -/
def settles (types : List String) (body : List Node) : Option (List (List Nat)) → Bool
  | none => false
  | some options =>
    anyPlacementFrom (fun claimed => (Matching.types types (leftOver body claimed)).all id) []
      options

/-- For each nested entry, the positions of the statements it fits; nothing if one fits nowhere. -/
def options (body : List Node) : List Entry → Option (List (List Nat))
  | [] => some []
  | .type _ :: rest => options body rest
  | .nested parent contains :: rest =>
    match fitting parent (fun inner => settles (plainTypes contains) inner (options inner contains))
        body with
    | [] => none
    | fits => (options body rest).map (fits :: ·)

def satisfies (body : List Node) (entries : List Entry) : Bool :=
  settles (plainTypes entries) body (options body entries)

end Matching

def Requirement.holdsAmong (requirement : Requirement) (nodes : List Node) : Bool :=
  nodes.any fun node =>
    node.type == requirement.parent && Matching.satisfies node.children requirement.contains

end Rubric
