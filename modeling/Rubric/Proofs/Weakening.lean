import Mathlib.Logic.Relation
import Rubric.Proofs.Assignment

/-!
# Requirements that ask for less

A requirement is weakened in steps. Each of them, at some level, deletes an entry or leaves of a
nested entry no more than its parent type. `Requirement.holdsAmong_of_weakensTo` states that a
requirement that holds still holds after any number of such steps.

A nested entry that becomes a plain one is no longer placed by trying but served by what is left
over, and an entry that is deleted leaves its statement to others. So the search may go quite
differently before and after a step. The assignments do not: an entry has its statement apart from
the statements of the others (`Node.satisfies_middle_iff`), and that statement also does for
whatever asks less of it.
-/

namespace Rubric

/-- One step by which some entries ask for less. -/
inductive Entry.Weakening : List Entry → List Entry → Prop
  | delete (before : List Entry) (entry : Entry) (after : List Entry) :
      Weakening (before ++ entry :: after) (before ++ after)
  | flatten (before : List Entry) (parent : String) (contains after : List Entry) :
      Weakening (before ++ .nested parent contains :: after) (before ++ .type parent :: after)
  | inside (before : List Entry) (parent : String) {contains less : List Entry}
      (after : List Entry) (step : Weakening contains less) :
      Weakening (before ++ .nested parent contains :: after)
        (before ++ .nested parent less :: after)

/-- One step by which a requirement asks for less: what it contains does. -/
inductive Requirement.Weakening : Requirement → Requirement → Prop
  | contains (parent : String) {contains less : List Entry}
      (step : Entry.Weakening contains less) : Weakening ⟨parent, contains⟩ ⟨parent, less⟩

/-- A requirement becomes another by any number of steps that ask for less. -/
def Requirement.WeakensTo : Requirement → Requirement → Prop :=
  Relation.ReflTransGen Requirement.Weakening

/-! ## One entry and the others -/

namespace Node

open Matching (Seating satisfies_iff_exists_seating seating_append_iff)

variable {node : Node} {before after : List Entry} {entry other : Entry}

/-- Wherever an entry stands among others, it is satisfied along with them if it fits a statement
that they leave free. -/
theorem satisfies_middle_iff : node.Satisfies (before ++ entry :: after) ↔
    ∃ position child others, node.children[position]? = some child ∧ child.Fits entry ∧
      Seating node.children (before ++ after) others ∧ position ∉ others := by
  have hperm : (before ++ entry :: after).Perm ([entry] ++ (before ++ after)) := List.perm_middle
  rw [satisfies_iff_exists_seating]
  constructor
  · rintro ⟨seats, hseats⟩
    obtain ⟨claimed, others, hclaimed, hothers, hdisjoint⟩ :=
      seating_append_iff.mp (hseats.reorder hperm.symm)
    obtain ⟨position, rest, ⟨child, hget, hfits⟩, -, rfl⟩ :=
      List.forall₂_cons_left_iff.mp hclaimed.fits
    exact ⟨position, child, others, hget, hfits, hothers, hdisjoint List.mem_cons_self⟩
  · rintro ⟨position, child, others, hget, hfits, hothers, hfree⟩
    have hclaimed : Seating node.children [entry] [position] :=
      ⟨.cons ⟨child, hget, hfits⟩ .nil, List.nodup_singleton position⟩
    obtain ⟨seats, hseats⟩ := seating_append_iff.mpr
      ⟨[position], others, hclaimed, hothers, List.singleton_disjoint.mpr hfree⟩
    exact hseats.reorder hperm

theorem Satisfies.delete (h : node.Satisfies (before ++ entry :: after)) :
    node.Satisfies (before ++ after) := by
  obtain ⟨-, -, others, -, -, hothers, -⟩ := satisfies_middle_iff.mp h
  exact satisfies_iff_exists_seating.mpr ⟨others, hothers⟩

theorem Satisfies.replace (h : node.Satisfies (before ++ entry :: after))
    (hfits : ∀ child : Node, child.Fits entry → child.Fits other) :
    node.Satisfies (before ++ other :: after) := by
  obtain ⟨position, child, others, hget, hchild, hothers, hfree⟩ := satisfies_middle_iff.mp h
  exact satisfies_middle_iff.mpr
    ⟨position, child, others, hget, hfits child hchild, hothers, hfree⟩

end Node

/-! ## Steps -/

theorem Entry.Weakening.satisfies {entries less : List Entry} (h : Entry.Weakening entries less)
    {node : Node} (hnode : node.Satisfies entries) : node.Satisfies less := by
  induction h generalizing node with
  | delete before entry after => exact hnode.delete
  | flatten before parent contains after => exact hnode.replace fun child hfits => hfits.1
  | inside before parent after step ih =>
      exact hnode.replace fun child hfits => ⟨hfits.1, ih hfits.2⟩

theorem Requirement.Weakening.holdsAmong {requirement weaker : Requirement}
    (h : requirement.Weakening weaker) {nodes : List Node}
    (hholds : requirement.holdsAmong nodes = true) : weaker.holdsAmong nodes = true := by
  cases h with
  | contains parent step =>
      rw [Requirement.holdsAmong_iff] at hholds ⊢
      obtain ⟨node, hnode, htype, hsatisfies⟩ := hholds
      exact ⟨node, hnode, htype, step.satisfies hsatisfies⟩

/-- A requirement that holds of the nodes down to a depth still holds of them after it has been
weakened, at any levels and by any number of steps. -/
theorem Requirement.holdsAmong_of_weakensTo {requirement weaker : Requirement}
    (h : requirement.WeakensTo weaker) (nodes : List Node) (depth : Depth)
    (hholds : requirement.holdsAmong (Node.within depth.val nodes) = true) :
    weaker.holdsAmong (Node.within depth.val nodes) = true := by
  induction h with
  | refl => exact hholds
  | tail _ step ih => exact step.holdsAmong ih

def Requirement.loopWithBranches : Requirement :=
  ⟨"WhileStatement", [.nested "IfStatement" [.type "ReturnStatement"], .type "IfStatement"]⟩

def Node.loopWithBranches : Node :=
  .node "WhileStatement" [.node "IfStatement" [],
    .node "IfStatement" [.node "ReturnStatement" []]]

/-- The first branch no longer has to return, then it becomes a plain one, and then one of the two
plain branches is deleted. -/
theorem Requirement.holdsAmong_of_loop_weakensTo :
    loopWithBranches.WeakensTo ⟨"WhileStatement", [.type "IfStatement"]⟩ ∧
    loopWithBranches.holdsAmong (Node.within Depth.standard.val [Node.loopWithBranches]) = true ∧
    Requirement.holdsAmong ⟨"WhileStatement", [.type "IfStatement"]⟩
      (Node.within Depth.standard.val [Node.loopWithBranches]) = true := by
  have hreturn : loopWithBranches.Weakening
      ⟨"WhileStatement", [.nested "IfStatement" [], .type "IfStatement"]⟩ :=
    .contains _ (.inside [] _ _ (.delete [] _ []))
  have hbranch : Requirement.Weakening
      ⟨"WhileStatement", [.nested "IfStatement" [], .type "IfStatement"]⟩
      ⟨"WhileStatement", [.type "IfStatement", .type "IfStatement"]⟩ :=
    .contains _ (.flatten [] _ _ _)
  have hsecond : Requirement.Weakening
      ⟨"WhileStatement", [.type "IfStatement", .type "IfStatement"]⟩
      ⟨"WhileStatement", [.type "IfStatement"]⟩ :=
    .contains _ (.delete [_] _ [])
  have hsteps : loopWithBranches.WeakensTo ⟨"WhileStatement", [.type "IfStatement"]⟩ :=
    .head hreturn (.head hbranch (.single hsecond))
  -- The nested entry takes the second statement, and the plain one the first.
  have hsatisfies : Node.loopWithBranches.Satisfies loopWithBranches.contains := by
    have hif : (Node.node "IfStatement" [.node "ReturnStatement" []]).Satisfies
        [.type "ReturnStatement"] :=
      Matching.satisfies_iff_exists_seating.mpr ⟨[0], .cons ⟨_, rfl, rfl⟩ .nil, by decide⟩
    exact Matching.satisfies_iff_exists_seating.mpr
      ⟨[1, 0], .cons ⟨_, rfl, rfl, hif⟩ (.cons ⟨_, rfl, rfl⟩ .nil), by decide⟩
  have hholds : loopWithBranches.holdsAmong
      (Node.within Depth.standard.val [Node.loopWithBranches]) = true := by
    rw [Node.within_eq_preorder, Requirement.holdsAmong_iff]
    exact ⟨Node.loopWithBranches, List.mem_cons_self, rfl, hsatisfies⟩
  exact ⟨hsteps, hholds, Requirement.holdsAmong_of_weakensTo hsteps _ _ hholds⟩

end Rubric
