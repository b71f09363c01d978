import Rubric.Proofs.Serving
import Rubric.Proofs.Traversal

/-!
# Demands met, by counting

Which demands for types do some nodes meet? `Matching.types` answers with queues of open demands, a
list of flags and a number of demands that remain, and stops once that number is zero. Two other
answers are given here. In `Matching.scan` every node, to the last one, marks the first demand for
its type that is not met yet. `Matching.tally` does not look at the order of the nodes: a demand is
met if fewer demands for its type stand before it than there are nodes of the type.

All three agree (`types_eq_tally`, `scan_eq_tally`). For the scan, one node turns the tally of the
nodes before it into the tally with that node counted in (`mark_tallyFrom`).
-/

namespace Rubric.Matching

/-! ## The naive scan -/

def mark (type : String) : List String → List Bool → List Bool
  | demand :: demands, met :: rest =>
    if demand == type && !met then true :: rest else met :: mark type demands rest
  | _, met => met

/-- Which of the demands are met once each of the nodes has marked one, if there is one left to mark
for its type. -/
def scan (demanded : List String) (nodes : List Node) : List Bool :=
  nodes.foldl (fun met node => mark node.type demanded met) (demanded.map fun _ => false)

/-! ## The tally -/

/-- For each demand, whether fewer demands for its type stand before it than the type is present.
Further demands stand before all of them. -/
def tallyFrom (before present : List String) : List String → List Bool
  | [] => []
  | type :: types =>
    decide (before.count type < present.count type) :: tallyFrom (before ++ [type]) present types

/-- Which of the demands are met, by counting the nodes of each type. -/
def tally (demanded : List String) (nodes : List Node) : List Bool :=
  tallyFrom [] (nodes.map Node.type) demanded

theorem getElem?_tallyFrom (before present types : List String) (position : Nat) :
    (tallyFrom before present types)[position]? =
      types[position]?.map fun type =>
        decide ((before ++ types.take position).count type < present.count type) := by
  induction types generalizing before position with
  | nil => rfl
  | cons first types ih =>
      cases position with
      | zero => simp only [tallyFrom, List.getElem?_cons_zero, Option.map_some, List.take_zero,
          List.append_nil]
      | succ position =>
          rw [tallyFrom, List.getElem?_cons_succ, List.getElem?_cons_succ, ih,
            List.take_succ_cons, List.append_assoc, List.singleton_append]

theorem getElem?_tally (demanded : List String) (nodes : List Node) (position : Nat) :
    (tally demanded nodes)[position]? = demanded[position]?.map fun type =>
      decide ((demanded.take position).count type < (nodes.map Node.type).count type) := by
  rw [tally, getElem?_tallyFrom]
  simp only [List.nil_append]

theorem tally_congr {demanded : List String} {nodes others : List Node}
    (h : ∀ type ∈ demanded,
      (nodes.map Node.type).count type = (others.map Node.type).count type) :
    tally demanded nodes = tally demanded others := by
  refine List.ext_getElem? fun position => ?_
  rw [getElem?_tally, getElem?_tally]
  cases hget : demanded[position]? with
  | none => rfl
  | some type =>
      rw [Option.map_some, Option.map_some, h type (List.mem_of_getElem? hget)]

/-! ## The scan is the tally -/

theorem count_concat_of_ne {type other : String} (h : type ≠ other) (types : List String) :
    (types ++ [type]).count other = types.count other := by
  have hnone : [type].count other = 0 :=
    List.count_eq_zero_of_not_mem fun hmem => h (List.mem_singleton.mp hmem).symm
  rw [List.count_append, hnone, Nat.add_zero]

theorem count_concat_self (type : String) (types : List String) :
    (types ++ [type]).count type = types.count type + 1 := by
  rw [List.count_append, List.count_singleton_self]

theorem tallyFrom_nil (before types : List String) :
    tallyFrom before [] types = types.map fun _ => false := by
  induction types generalizing before with
  | nil => rfl
  | cons first types ih =>
      rw [tallyFrom, ih, List.map_cons, List.count_nil]
      rfl

/-- One more node of a type makes no difference if even then there are too few of them. -/
theorem tallyFrom_concat_of_lt {before present : List String} {type : String}
    (h : present.count type < before.count type) (types : List String) :
    tallyFrom before (present ++ [type]) types = tallyFrom before present types := by
  induction types generalizing before with
  | nil => rfl
  | cons first types ih =>
      have hlater : present.count type < (before ++ [first]).count type := by
        rw [List.count_append]
        omega
      rw [tallyFrom, tallyFrom, ih hlater]
      by_cases hfirst : first = type
      · subst hfirst
        have hold : ¬ before.count first < present.count first := by omega
        have hnew : ¬ before.count first < (present ++ [first]).count first := by
          rw [count_concat_self]
          omega
        rw [decide_eq_false hold, decide_eq_false hnew]
      · rw [count_concat_of_ne (Ne.symm hfirst)]

/-- Marking the first open demand for a type counts one more node of the type in, provided that no
demand for it is open before. -/
theorem mark_tallyFrom {before present : List String} {type : String}
    (h : before.count type ≤ present.count type) (types : List String) :
    mark type types (tallyFrom before present types) =
      tallyFrom before (present ++ [type]) types := by
  induction types generalizing before with
  | nil => rfl
  | cons first types ih =>
      rw [tallyFrom, tallyFrom, mark]
      by_cases hfirst : first = type
      · subst hfirst
        have hnew : before.count first < (present ++ [first]).count first := by
          rw [count_concat_self]
          omega
        have hbefore := count_concat_self first before
        rw [decide_eq_true hnew]
        by_cases hold : before.count first < present.count first
        · -- This demand is met already, and the next ones are looked at.
          rw [decide_eq_true hold, ih (by omega)]
          simp
        · -- This is the first open demand, and those behind it stay open.
          rw [decide_eq_false hold, tallyFrom_concat_of_lt (by omega)]
          simp
      · have hbefore := count_concat_of_ne hfirst before
        rw [ih (by omega), count_concat_of_ne (Ne.symm hfirst), beq_false_of_ne hfirst]
        rfl

theorem scan_eq_tally (demanded : List String) (nodes : List Node) :
    scan demanded nodes = tally demanded nodes := by
  -- The flags at any time are the tally of the nodes seen so far.
  have hrun : ∀ present : List String,
      nodes.foldl (fun met node => mark node.type demanded met) (tallyFrom [] present demanded) =
        tallyFrom [] (present ++ nodes.map Node.type) demanded := by
    induction nodes with
    | nil =>
        intro present
        rw [List.foldl_nil, List.map_nil, List.append_nil]
    | cons node nodes ih =>
        intro present
        rw [List.foldl_cons, mark_tallyFrom (Nat.zero_le _), ih, List.append_assoc,
          List.map_cons, List.singleton_append]
  rw [scan, ← tallyFrom_nil [], hrun, List.nil_append]
  rfl

/-! ## The queues give the tally -/

/-- Of the positions of a type, a position is among the first ones if the type occurs less often
before it. -/
theorem mem_take_idxsOf_iff {demanded : List String} {type : String} {position : Nat}
    (h : demanded[position]? = some type) (number : Nat) :
    position ∈ (demanded.idxsOf type).take number ↔
      (demanded.take position).count type < number := by
  obtain ⟨hlt, hget⟩ := List.getElem?_eq_some_iff.mp h
  -- The positions of the type before this one, this one, and those behind it.
  have hsplit : demanded.idxsOf type = (demanded.take position).idxsOf type ++
      position :: (demanded.drop (position + 1)).idxsOf type (position + 1) := by
    conv_lhs => rw [← List.take_append_drop position demanded, List.drop_eq_getElem_cons hlt]
    rw [List.idxsOf_append, List.idxsOf_cons, hget, List.length_take_of_le (by omega)]
    simp
  have hearlier : position ∉ (demanded.take position).idxsOf type := by
    intro hmem
    have := List.lt_add_of_mem_idxsOf _ hmem
    rw [List.length_take] at this
    omega
  have hlength : ((demanded.take position).idxsOf type).length =
      (demanded.take position).count type := List.length_idxsOf
  rw [hsplit, List.take_append, List.mem_append, hlength]
  constructor
  · rintro (hmem | hmem)
    · exact absurd (List.mem_of_mem_take hmem) hearlier
    · by_contra hle
      rw [Nat.sub_eq_zero_of_le (Nat.le_of_not_lt hle), List.take_zero] at hmem
      exact List.not_mem_nil hmem
  · intro hcount
    obtain ⟨more, hmore⟩ : ∃ more, number - (demanded.take position).count type = more + 1 :=
      ⟨number - (demanded.take position).count type - 1, by omega⟩
    rw [hmore, List.take_succ_cons]
    exact Or.inr List.mem_cons_self

theorem types_eq_tally (demanded : List String) (nodes : List Node) :
    types demanded nodes = tally demanded nodes := by
  refine List.ext_getElem? fun position => ?_
  rw [getElem?_tally]
  cases hget : demanded[position]? with
  | none =>
      rw [Option.map_none, List.getElem?_eq_none_iff, length_types]
      exact List.getElem?_eq_none_iff.mp hget
  | some type =>
      obtain ⟨hlt, -⟩ := List.getElem?_eq_some_iff.mp hget
      have hflag : position < (types demanded nodes).length := by rwa [length_types]
      have hiff := types_eq_true_iff hget nodes
      rw [mem_take_idxsOf_iff hget, List.getElem?_eq_getElem hflag, Option.some.injEq] at hiff
      rw [Option.map_some, List.getElem?_eq_getElem hflag, Option.some.injEq, Bool.eq_iff_iff, hiff,
        decide_eq_true_eq]

/-- There is a flag for each demand for a type, and it is set exactly if fewer demands for the type
stand before it than there are nodes of the type down to the depth. Neither the queues nor stopping
once no demand is open changes what the naive scan of all the nodes answers. -/
theorem types_within_eq_scan (demanded : List String) (nodes : List Node) (depth : Depth) :
    (types demanded (Node.within depth.val nodes)).length = demanded.length ∧
    (∀ position : Fin demanded.length,
      (types demanded (Node.within depth.val nodes))[position.val]? = some true ↔
        (demanded.take position.val).count (demanded.get position) <
          ((Node.preorder depth.val nodes).map Node.type).count (demanded.get position)) ∧
    types demanded (Node.within depth.val nodes) =
      scan demanded (Node.preorder depth.val nodes) := by
  rw [Node.within_eq_preorder]
  refine ⟨length_types _ _, fun position => ?_, ?_⟩
  · rw [types_eq_tally, getElem?_tally, List.getElem?_eq_getElem position.isLt, Option.map_some,
      Option.some.injEq, decide_eq_true_eq]
    rfl
  · rw [types_eq_tally, scan_eq_tally]

end Rubric.Matching
