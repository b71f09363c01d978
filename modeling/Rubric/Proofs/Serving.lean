import Mathlib.Data.List.Forall2
import Mathlib.Data.List.Perm.Subperm
import Rubric.Matching

/-!
# Which demands are served

The queues of open demands are seen through one view, `openFor`: the positions at which a type is
still demanded, in order. Serving a list of nodes then amounts to a count: of the positions that
demand a type, the first ones are met, as many as there are nodes of the type
(`types_eq_true_iff`). So all demands are met exactly if every type occurs at least as often as it
is demanded (`types_all_iff_subperm`), and more nodes never meet fewer demands (`types_mono`).
-/

namespace Rubric.Matching

/-! ## The view of the queues -/

/-- The positions at which a type is still demanded, in order. -/
def openFor (type : String) : List Queue → List Nat
  | [] => []
  | queue :: queues => if queue.type == type then queue.positions else openFor type queues

def openCount : List Queue → Nat
  | [] => 0
  | queue :: queues => queue.positions.length + openCount queues

theorem openFor_enqueue (other : String) (position : Nat) (type : String) (queues : List Queue) :
    openFor other (enqueue position type queues) =
      openFor other queues ++ if type == other then [position] else [] := by
  induction queues with
  | nil => simp only [enqueue, openFor, List.nil_append]
  | cons queue queues ih =>
      by_cases htype : queue.type == type
      · have heq : queue.type = type := eq_of_beq htype
        simp only [enqueue, openFor, heq, beq_self_eq_true, if_true]
        by_cases hother : type == other
        · simp only [hother, if_true]
        · simp only [hother, if_false, List.append_nil, Bool.false_eq_true]
      · simp only [enqueue, openFor, htype, if_false, Bool.false_eq_true]
        by_cases hother : queue.type == other
        · have hne : (type == other) = false := by
            rw [← eq_of_beq hother]
            exact beq_false_of_ne fun h => htype (h ▸ beq_self_eq_true type)
          simp only [hother, if_true, hne, if_false, List.append_nil, Bool.false_eq_true]
        · simp only [hother, if_false, Bool.false_eq_true, ih]

theorem openCount_enqueue (position : Nat) (type : String) (queues : List Queue) :
    openCount (enqueue position type queues) = openCount queues + 1 := by
  induction queues with
  | nil => rfl
  | cons queue queues ih =>
      by_cases htype : queue.type == type
      · simp only [enqueue, htype, if_true, openCount, List.length_append, List.length_singleton]
        omega
      · simp only [enqueue, htype, if_false, Bool.false_eq_true, openCount, ih]
        omega

theorem openFor_queuesFrom (type : String) (types : List String) (position : Nat)
    (queues : List Queue) :
    openFor type (queuesFrom position queues types) =
      openFor type queues ++ types.idxsOf type position := by
  induction types generalizing position queues with
  | nil => rw [queuesFrom, List.idxsOf_nil, List.append_nil]
  | cons first types ih =>
      rw [queuesFrom, ih, openFor_enqueue, List.append_assoc, List.idxsOf_cons]
      by_cases h : first == type
      · simp only [h, if_true, List.singleton_append]
      · simp only [h, if_false, List.nil_append, Bool.false_eq_true]

theorem openCount_queuesFrom (types : List String) (position : Nat) (queues : List Queue) :
    openCount (queuesFrom position queues types) = openCount queues + types.length := by
  induction types generalizing position queues with
  | nil => rfl
  | cons first types ih =>
      rw [queuesFrom, ih, openCount_enqueue, List.length_cons]
      omega

/-- A type for which nothing can be taken is no longer demanded. -/
theorem openFor_eq_nil_of_take?_eq_none {type : String} {queues : List Queue}
    (h : take? type queues = none) : openFor type queues = [] := by
  induction queues with
  | nil => rfl
  | cons queue queues ih =>
      by_cases htype : queue.type == type
      · cases hpositions : queue.positions with
        | nil => simp only [openFor, htype, if_true, hpositions]
        | cons first rest => simp [take?, htype, hpositions] at h
      · simp only [take?, htype, if_false, Option.map_eq_none_iff, Bool.false_eq_true] at h
        simp only [openFor, htype, if_false, Bool.false_eq_true, ih h]

/-- What taking a demand does to the view: the first open position for the type goes, and all else
stays. -/
structure Taken (type : String) (queues : List Queue) (position : Nat) (rest : List Queue) :
    Prop where
  same : openFor type queues = position :: openFor type rest
  others : ∀ other, other ≠ type → openFor other rest = openFor other queues
  count : openCount queues = openCount rest + 1

theorem taken_of_take?_eq_some {type : String} {queues rest : List Queue} {position : Nat}
    (h : take? type queues = some (position, rest)) : Taken type queues position rest := by
  induction queues generalizing rest with
  | nil => cases h
  | cons queue queues ih =>
      by_cases htype : queue.type == type
      · cases hpositions : queue.positions with
        | nil => simp [take?, htype, hpositions] at h
        | cons first positions =>
            simp only [take?, htype, if_true, hpositions, Option.some.injEq, Prod.mk.injEq] at h
            obtain ⟨rfl, rfl⟩ := h
            -- The queue is for the type itself, so the demand is its first.
            refine ⟨?_, ?_, ?_⟩
            · simp only [openFor, htype, if_true, hpositions, beq_self_eq_true]
            · intro other hother
              have hne : (type == other) = false := beq_false_of_ne hother.symm
              simp only [openFor, eq_of_beq htype, hne, if_false, Bool.false_eq_true]
            · simp only [openCount, hpositions, List.length_cons]
              omega
      · simp only [take?, htype, if_false, Bool.false_eq_true, Option.map_eq_some_iff,
          Prod.mk.injEq] at h
        obtain ⟨⟨p, inner⟩, htake, rfl, rfl⟩ := h
        obtain ⟨hsame, hothers, hcount⟩ := ih htake
        refine ⟨?_, ?_, ?_⟩
        · simp only [openFor, htype, if_false, Bool.false_eq_true, hsame]
        · intro other hother
          simp only [openFor, hothers other hother]
        · simp only [openCount, hcount]
          omega

theorem openFor_eq_nil_of_openCount_eq_zero {queues : List Queue} (h : openCount queues = 0)
    (type : String) : openFor type queues = [] := by
  induction queues with
  | nil => rfl
  | cons queue queues ih =>
      simp only [openCount, Nat.add_eq_zero_iff, List.length_eq_zero_iff] at h
      by_cases htype : queue.type == type
      · simp only [openFor, htype, if_true, h.1]
      · simp only [openFor, htype, if_false, Bool.false_eq_true, ih h.2]

/-! ## Serving -/

theorem length_serve (nodes : List Node) (queues : List Queue) (met : List Bool)
    (remaining : Nat) : (serve queues met remaining nodes).length = met.length := by
  induction nodes generalizing queues met remaining with
  | nil => rfl
  | cons node nodes ih =>
      rw [serve]
      split
      · rfl
      · split
        · rw [ih, List.length_set]
        · rw [ih]

/-- A demand is among those that a number of nodes of each type serve. -/
def Served (queues : List Queue) (nodes : List Node) (position : Nat) : Prop :=
  ∃ type, position ∈ (openFor type queues).take ((nodes.map Node.type).count type)

theorem not_served_of_openCount_eq_zero {queues : List Queue} (h : openCount queues = 0)
    (nodes : List Node) (position : Nat) : ¬ Served queues nodes position := by
  rintro ⟨type, hmem⟩
  rw [openFor_eq_nil_of_openCount_eq_zero h, List.take_nil] at hmem
  exact List.not_mem_nil hmem

theorem served_cons_of_openFor_eq_nil {queues : List Queue} {node : Node}
    (h : openFor node.type queues = []) (nodes : List Node) (position : Nat) :
    Served queues (node :: nodes) position ↔ Served queues nodes position := by
  refine exists_congr fun type => ?_
  by_cases htype : node.type = type
  · rw [← htype, h, List.take_nil, List.take_nil]
  · rw [List.map_cons, List.count_cons_of_ne htype]

/-- A node of a type that is demanded serves the first open demand for it. -/
theorem served_cons_of_taken {queues rest : List Queue} {node : Node} {first : Nat}
    (h : Taken node.type queues first rest) (nodes : List Node) (position : Nat) :
    Served queues (node :: nodes) position ↔ position = first ∨ Served rest nodes position := by
  constructor
  · rintro ⟨type, hmem⟩
    by_cases htype : node.type = type
    · subst htype
      rw [h.same, List.map_cons, List.count_cons_self, List.take_succ_cons, List.mem_cons] at hmem
      exact hmem.imp id fun hrest => ⟨node.type, hrest⟩
    · rw [List.map_cons, List.count_cons_of_ne htype, ← h.others type (Ne.symm htype)] at hmem
      exact Or.inr ⟨type, hmem⟩
  · rintro (rfl | ⟨type, hmem⟩)
    · refine ⟨node.type, ?_⟩
      rw [h.same, List.map_cons, List.count_cons_self, List.take_succ_cons]
      exact List.mem_cons_self
    · refine ⟨type, ?_⟩
      by_cases htype : node.type = type
      · subst htype
        rw [h.same, List.map_cons, List.count_cons_self, List.take_succ_cons]
        exact List.mem_cons_of_mem _ hmem
      · rw [List.map_cons, List.count_cons_of_ne htype, ← h.others type (Ne.symm htype)]
        exact hmem

/-- A demand is met in the end if it was met before or the nodes serve it. That serving stops once
no demand is open makes no difference. -/
theorem serve_eq_true_iff (nodes : List Node) {queues : List Queue} (met : List Bool)
    {remaining : Nat} (h : remaining = openCount queues) (position : Nat) :
    (serve queues met remaining nodes)[position]? = some true ↔
      met[position]? = some true ∨ position < met.length ∧ Served queues nodes position := by
  induction nodes generalizing queues met remaining with
  | nil =>
      have hnone : ¬ Served queues [] position := by
        rintro ⟨type, hmem⟩
        rw [List.map_nil, List.count_nil, List.take_zero] at hmem
        exact List.not_mem_nil hmem
      simp only [serve, hnone, and_false, or_false]
  | cons node nodes ih =>
      rw [serve]
      split
      · rename_i hzero
        -- Nothing is open, so the nodes that are left serve nobody.
        have hcount : openCount queues = 0 := h ▸ eq_of_beq hzero
        have hnone := not_served_of_openCount_eq_zero hcount (node :: nodes) position
        simp only [hnone, and_false, or_false]
      · split
        · rename_i first rest htake
          have htaken := taken_of_take?_eq_some htake
          have hremaining : remaining - 1 = openCount rest := by
            rw [h, htaken.count, Nat.add_sub_cancel]
          -- The demand that the node serves is no longer open, but it is met now.
          rw [ih _ hremaining, served_cons_of_taken htaken, List.length_set, List.getElem?_set]
          by_cases hfirst : first = position
          · subst hfirst
            by_cases hlt : first < met.length
            · simp [hlt]
            · simp [hlt]
          · simp [hfirst, Ne.symm hfirst]
        · rename_i htake
          rw [ih _ h, served_cons_of_openFor_eq_nil (openFor_eq_nil_of_take?_eq_none htake)]

/-! ## Demands met by a list of nodes -/

@[simp] theorem length_types (demanded : List String) (nodes : List Node) :
    (types demanded nodes).length = demanded.length := by
  rw [types, length_serve, List.length_map]

theorem mem_idxsOf_iff {demanded : List String} {type : String} {position : Nat} :
    position ∈ demanded.idxsOf type ↔ demanded[position]? = some type := by
  rw [List.mem_idxsOf_iff_exists_getElem_pos, List.getElem?_eq_some_iff]
  simp only [beq_iff_eq]

/-- Of the positions that demand a type, the first ones are met, as many as there are nodes of the
type. -/
theorem types_eq_true_iff {demanded : List String} {type : String} {position : Nat}
    (h : demanded[position]? = some type) (nodes : List Node) :
    (types demanded nodes)[position]? = some true ↔
      position ∈ (demanded.idxsOf type).take ((nodes.map Node.type).count type) := by
  have hcount : demanded.length = openCount (queuesFrom 0 [] demanded) := by
    rw [openCount_queuesFrom, openCount, Nat.zero_add]
  have hopen : ∀ other, openFor other (queuesFrom 0 [] demanded) = demanded.idxsOf other := by
    intro other
    rw [openFor_queuesFrom, openFor, List.nil_append]
  obtain ⟨hlt, -⟩ := List.getElem?_eq_some_iff.mp h
  rw [types, serve_eq_true_iff nodes _ hcount, List.length_map, Served]
  simp only [hopen]
  constructor
  · rintro (hmet | ⟨-, other, hmem⟩)
    · rw [List.getElem?_map, h] at hmet
      cases hmet
    · have hother := mem_idxsOf_iff.mp (List.mem_of_mem_take hmem)
      rw [h] at hother
      cases hother
      exact hmem
  · intro hmem
    exact Or.inr ⟨hlt, type, hmem⟩

/-- All demands are met exactly if every type occurs as often as it is demanded. -/
theorem types_all_iff_subperm (demanded : List String) (nodes : List Node) :
    (types demanded nodes).all id = true ↔ demanded.Subperm (nodes.map Node.type) := by
  rw [List.all_eq_true, List.subperm_iff_count]
  constructor
  · intro hall type
    -- All positions for the type are among the first ones, so those are no fewer.
    have hsubset : demanded.idxsOf type ⊆
        (demanded.idxsOf type).take ((nodes.map Node.type).count type) := by
      intro position hposition
      have hget := mem_idxsOf_iff.mp hposition
      obtain ⟨hlt, -⟩ := List.getElem?_eq_some_iff.mp hget
      have hlt' : position < (types demanded nodes).length := by rwa [length_types]
      have hflag : (types demanded nodes)[position] = true := hall _ (List.getElem_mem hlt')
      refine (types_eq_true_iff hget nodes).mp ?_
      rw [List.getElem?_eq_getElem hlt', hflag]
    calc demanded.count type
        = (demanded.idxsOf type).length := List.length_idxsOf.symm
      _ ≤ ((demanded.idxsOf type).take _).length := (List.nodup_idxsOf.subperm hsubset).length_le
      _ ≤ (nodes.map Node.type).count type := List.length_take_le _ _
  · intro hle flag hflag
    obtain ⟨position, hlt, rfl⟩ := List.mem_iff_getElem.mp hflag
    have hlt' : position < demanded.length := by rwa [length_types] at hlt
    have hget := List.getElem?_eq_getElem hlt'
    have hmet : (types demanded nodes)[position]? = some true := by
      rw [types_eq_true_iff hget, List.take_of_length_le (by rw [List.length_idxsOf]; exact hle _)]
      exact mem_idxsOf_iff.mpr hget
    rw [List.getElem?_eq_getElem hlt] at hmet
    exact Option.some.inj hmet

theorem types_mono (demanded : List String) {nodes more : List Node}
    (h : (nodes.map Node.type).Subperm (more.map Node.type)) :
    List.Forall₂ (fun before after => before = true → after = true)
      (types demanded nodes) (types demanded more) := by
  rw [List.forall₂_iff_get]
  refine ⟨by rw [length_types, length_types], fun position hbefore hafter hmet => ?_⟩
  have hlt : position < demanded.length := by rwa [length_types] at hbefore
  have hget := List.getElem?_eq_getElem hlt
  have hserved : (types demanded nodes)[position]? = some true := by
    rw [List.getElem?_eq_getElem hbefore]
    exact congrArg some hmet
  rw [types_eq_true_iff hget] at hserved
  have hmore : (types demanded more)[position]? = some true := by
    rw [types_eq_true_iff hget]
    exact List.take_subset_take_left _ (h.count_le _) hserved
  rw [List.getElem?_eq_getElem hafter] at hmore
  exact Option.some.inj hmore

end Rubric.Matching
