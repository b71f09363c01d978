import Mathlib.Data.List.Forall2
import Mathlib.Data.List.Nodup
import Rubric.Matching

/-!
# Placements as a filtered product

`Matching.placements` lists the ways to choose a different option from each list. It goes on with
a choice only as long as no option in it is claimed twice. `Matching.product` lists all ways to
choose. `placements_eq_filter_product` states that cutting choices short loses and repeats none: the
placements are those choices of the product that choose no option twice, in the same order.

That order can be told without the recursion by which the product is built. With the position of
each option beside it (`numbered`), every choice of positions is listed, and the positions ascend
lexicographically.
-/

namespace Rubric.Matching

variable {α β : Type}

/-- All ways to choose an option from each list. -/
def product : List (List α) → List (List α)
  | [] => [[]]
  | options :: rest => options.flatMap fun option => (product rest).map (option :: ·)

/-! ## Every choice, in order -/

theorem mem_product_iff {options : List (List α)} {choice : List α} :
    choice ∈ product options ↔ List.Forall₂ (fun list option => option ∈ list) options choice := by
  induction options generalizing choice with
  | nil => rw [product, List.mem_singleton, List.forall₂_nil_left_iff]
  | cons list rest ih =>
      simp only [product, List.mem_flatMap, List.mem_map, ih, List.forall₂_cons_left_iff]
      constructor
      · rintro ⟨option, hoption, chosen, hchosen, rfl⟩
        exact ⟨option, chosen, hoption, hchosen, rfl⟩
      · rintro ⟨option, chosen, hoption, hchosen, rfl⟩
        exact ⟨option, hoption, chosen, hchosen, rfl⟩

theorem product_map (f : α → β) (options : List (List α)) :
    product (options.map (List.map f)) = (product options).map (List.map f) := by
  induction options with
  | nil => rfl
  | cons list rest ih =>
      simp only [List.map_cons, product, List.map_flatMap, List.flatMap_map, ih, List.map_map]
      rfl

/-- Where the options of each list are in order, the choices are in lexicographic order. -/
theorem product_pairwise_lex {before : α → α → Prop} {options : List (List α)}
    (h : ∀ list ∈ options, list.Pairwise before) :
    (product options).Pairwise (List.Lex before) := by
  induction options with
  | nil => exact List.pairwise_singleton _ _
  | cons list rest ih =>
      obtain ⟨hlist, hrest⟩ := List.forall_mem_cons.mp h
      rw [product, List.pairwise_flatMap]
      constructor
      · intro option _
        rw [List.pairwise_map]
        exact (ih hrest).imp .cons
      · refine hlist.imp fun hbefore choice hchoice other hother => ?_
        obtain ⟨chosen, -, rfl⟩ := List.mem_map.mp hchoice
        obtain ⟨chosen', -, rfl⟩ := List.mem_map.mp hother
        exact .rel hbefore

/-- The product with the position of each option beside it. -/
def numbered (options : List (List α)) : List (List (α × Nat)) :=
  product (options.map List.zipIdx)

theorem numbered_map_fst (options : List (List α)) :
    (numbered options).map (List.map Prod.fst) = product options := by
  rw [numbered, ← product_map, List.map_map]
  have hfirst : List.map Prod.fst ∘ List.zipIdx = (id : List α → List α) :=
    funext fun list => List.zipIdx_map_fst 0 list
  rw [hfirst, List.map_id]

theorem numbered_pairwise_lex (options : List (List α)) :
    ((numbered options).map (List.map Prod.snd)).Pairwise (List.Lex (· < ·)) := by
  rw [numbered, ← product_map]
  refine product_pairwise_lex fun positions hpositions => ?_
  obtain ⟨_, hlist, rfl⟩ := List.mem_map.mp hpositions
  obtain ⟨list, -, rfl⟩ := List.mem_map.mp hlist
  rw [List.zipIdx_map_snd]
  exact List.pairwise_lt_range' 1

theorem mem_numbered_iff {options : List (List α)} {choice : List (α × Nat)} :
    choice ∈ numbered options ↔
      List.Forall₂ (fun list chosen => list[chosen.2]? = some chosen.1) options choice := by
  simp only [numbered, mem_product_iff, List.forall₂_map_left_iff, List.mem_zipIdx_iff_getElem?]

/-! ## Placements -/

/-- The placements after some options have been claimed are the choices of the product that repeat
neither an option nor one of those claimed. -/
theorem placementsFrom_eq_filter [BEq α] [LawfulBEq α] [DecidableEq α] {claimed : List α}
    (hclaimed : claimed.Nodup) (options : List (List α)) :
    placementsFrom claimed options =
      ((product options).map (claimed ++ ·)).filter fun choice => choice.Nodup := by
  induction options generalizing claimed with
  | nil => simp [placementsFrom, product, hclaimed]
  | cons list rest ih =>
      rw [placementsFrom, product, List.map_flatMap, List.filter_flatMap]
      refine List.flatMap_congr fun option _ => ?_
      rw [List.map_map]
      by_cases hmem : option ∈ claimed
      · -- Whatever else is chosen, the option stands there twice.
        rw [if_pos (List.contains_iff_mem.mpr hmem), eq_comm, List.filter_eq_nil_iff]
        intro choice hchoice
        obtain ⟨chosen, -, rfl⟩ := List.mem_map.mp hchoice
        rw [decide_eq_true_eq]
        exact fun hnodup => List.disjoint_of_nodup_append hnodup hmem List.mem_cons_self
      · have hnext : (claimed ++ [option]).Nodup := by
          rw [← List.concat_eq_append]
          exact hclaimed.concat hmem
        have hmove : (claimed ++ ·) ∘ (option :: ·) = (claimed ++ [option] ++ ·) := by
          funext chosen
          rw [Function.comp_apply, List.append_assoc, List.singleton_append]
        rw [if_neg fun h => hmem (List.contains_iff_mem.mp h), ih hnext, hmove]

/-- The placements are the choices of the product that choose no option twice, in the same order
and as often. The product holds each choice of positions once, and in lexicographic order. -/
theorem placements_eq_filter_product (options : List (List Int)) :
    placements options = (product options).filter (fun choice => choice.Nodup) ∧
    (numbered options).map (List.map Prod.fst) = product options ∧
    ((numbered options).map (List.map Prod.snd)).Pairwise (List.Lex (· < ·)) ∧
    ∀ choice, choice ∈ numbered options ↔
      List.Forall₂ (fun list chosen => list[chosen.2]? = some chosen.1) options choice := by
  refine ⟨?_, numbered_map_fst options, numbered_pairwise_lex options, fun _ => mem_numbered_iff⟩
  rw [placements, placementsFrom_eq_filter List.nodup_nil]
  simp only [List.nil_append, List.map_id']

-- An option that a list offers twice makes for two placements of it.
example : placements [[2, 1, 2], [1, 2]] = [[2, 1], [1, 2], [2, 1]] := by
  decide

end Rubric.Matching
