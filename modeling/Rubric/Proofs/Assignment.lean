import Mathlib.Data.List.FinRange
import Mathlib.Data.List.NodupEquivFin
import Mathlib.Data.List.Perm.Basic
import Rubric.Proofs.Placement
import Rubric.Proofs.Serving
import Rubric.Proofs.Traversal

/-!
# Structure requirements as assignments

`Node.Satisfies` says what it is for a node to contain some entries: all of them, plain and nested
together, are assigned different statements of its body, each a statement that fits. Nothing in it
speaks of an order of search.

The search places the nested entries first, gives up early if one of them fits nowhere, and lets
the statements left over serve the plain types. `satisfies_iff` states that it finds an assignment
exactly if there is one. In between stands a `Seating`: the positions given to the entries, as a
list in their order. A seating can be reordered along with the entries and cut in two, which is how
the part for the nested entries and the part for the plain types come apart.
-/

namespace Rubric

/-- A node satisfies a list of entries if all of them together can be assigned different positions
of its body: a plain entry that of a statement of its type, a nested one that of a statement of the
parent type that itself satisfies what the entry contains. -/
inductive Node.Satisfies : Node → List Entry → Prop
  | assign {node : Node} {entries : List Entry}
      (place : Fin entries.length → Fin node.children.length)
      (injective : Function.Injective place)
      (plain : ∀ i name, entries.get i = .type name →
        (node.children.get (place i)).type = name)
      (parent : ∀ i parent contains, entries.get i = .nested parent contains →
        (node.children.get (place i)).type = parent)
      (body : ∀ i parent contains, entries.get i = .nested parent contains →
        Node.Satisfies (node.children.get (place i)) contains) :
      Node.Satisfies node entries

/-- A statement fits an entry that may be assigned to it. -/
def Node.Fits (node : Node) : Entry → Prop
  | .type name => node.type = name
  | .nested parent contains => node.type = parent ∧ node.Satisfies contains

/-- A node satisfies entries exactly if they are placed apart on statements that fit. -/
theorem Node.satisfies_iff_exists_place {node : Node} {entries : List Entry} :
    node.Satisfies entries ↔ ∃ place : Fin entries.length → Fin node.children.length,
      Function.Injective place ∧ ∀ i, (node.children.get (place i)).Fits (entries.get i) := by
  constructor
  · rintro ⟨place, injective, plain, parent, body⟩
    refine ⟨place, injective, fun i => ?_⟩
    cases hentry : entries.get i with
    | type name => exact plain i name hentry
    | nested name contains => exact ⟨parent i name contains hentry, body i name contains hentry⟩
  · rintro ⟨place, injective, fits⟩
    refine .assign place injective ?_ ?_ ?_
    · intro i name hentry
      have h := fits i
      rw [hentry] at h
      exact h
    · intro i name contains hentry
      have h := fits i
      rw [hentry] at h
      exact h.1
    · intro i name contains hentry
      have h := fits i
      rw [hentry] at h
      exact h.2

/-- What a node satisfies, any related node satisfies too, if related nodes have the same type and
each child of the one goes to a position of its own among the children of the other. -/
theorem Node.Satisfies.carried (related : Node → Node → Prop)
    (type_eq : ∀ {node other : Node}, related node other → node.type = other.type)
    (move : ∀ {node other : Node}, related node other →
      ∃ target : Fin node.children.length → Fin other.children.length,
        Function.Injective target ∧
          ∀ i, related (node.children.get i) (other.children.get (target i)))
    {node other : Node} {entries : List Entry} (h : node.Satisfies entries)
    (hrelated : related node other) : other.Satisfies entries := by
  induction h generalizing other with
  | assign place injective plain parent body ih =>
      obtain ⟨target, htarget, hmoved⟩ := move hrelated
      -- Every entry keeps its child, wherever that has moved.
      refine .assign (fun i => target (place i)) (htarget.comp injective) ?_ ?_ ?_
      · intro i name hentry
        rw [← type_eq (hmoved (place i))]
        exact plain i name hentry
      · intro i name contains hentry
        rw [← type_eq (hmoved (place i))]
        exact parent i name contains hentry
      · intro i name contains hentry
        exact ih i name contains hentry (hmoved (place i))

/-- A node that satisfies some entries satisfies others as well, if each of the others comes from a
position of its own among them: a plain entry from one that asks for at least its type, a nested
entry from one that asks for at least what it contains. -/
theorem Node.Satisfies.exchanged (related : Entry → Entry → Prop)
    (plain_of : ∀ {entry : Entry} {name : String}, related entry (.type name) →
      entry = .type name ∨ ∃ contains, entry = .nested name contains)
    (nested_of : ∀ {entry : Entry} {parent : String} {others : List Entry},
      related entry (.nested parent others) → ∃ contains, entry = .nested parent contains ∧
        ∃ source : Fin others.length → Fin contains.length, Function.Injective source ∧
          ∀ i, related (contains.get (source i)) (others.get i))
    {node : Node} {entries others : List Entry} (h : node.Satisfies entries)
    (hsource : ∃ source : Fin others.length → Fin entries.length, Function.Injective source ∧
      ∀ i, related (entries.get (source i)) (others.get i)) : node.Satisfies others := by
  induction h generalizing others with
  | assign place injective plain parent body ih =>
      obtain ⟨source, hinjective, hrelated⟩ := hsource
      -- Every entry takes the child of the one it comes from.
      refine .assign (fun i => place (source i)) (injective.comp hinjective) ?_ ?_ ?_
      · intro i name hentry
        have hfrom := hrelated i
        rw [hentry] at hfrom
        rcases plain_of hfrom with hplain | ⟨contains, hnested⟩
        · exact plain _ name hplain
        · exact parent _ name contains hnested
      · intro i name contains hentry
        have hfrom := hrelated i
        rw [hentry] at hfrom
        obtain ⟨inner, hnested, -⟩ := nested_of hfrom
        exact parent _ name inner hnested
      · intro i name contains hentry
        have hfrom := hrelated i
        rw [hentry] at hfrom
        obtain ⟨inner, hnested, hinner⟩ := nested_of hfrom
        exact ih _ name inner hnested hinner

/-! ## Seatings -/

namespace Matching

/-- The positions given to some entries, in their order: what stands there fits, and no position is
given twice. -/
structure Seating (body : List Node) (entries : List Entry) (seats : List Nat) : Prop where
  fits : List.Forall₂ (fun entry seat => ∃ child, body[seat]? = some child ∧ child.Fits entry)
    entries seats
  apart : seats.Nodup

theorem satisfies_iff_exists_seating {node : Node} {entries : List Entry} :
    node.Satisfies entries ↔ ∃ seats, Seating node.children entries seats := by
  rw [Node.satisfies_iff_exists_place]
  constructor
  · rintro ⟨place, injective, fits⟩
    refine ⟨List.ofFn fun i => (place i).val, ?_, ?_⟩
    · rw [List.forall₂_iff_get]
      refine ⟨by rw [List.length_ofFn], fun i hi _ => ?_⟩
      rw [List.get_ofFn]
      exact ⟨_, List.getElem?_eq_getElem (place ⟨i, hi⟩).isLt, fits ⟨i, hi⟩⟩
    · exact List.nodup_ofFn.mpr fun i j hij => injective (Fin.val_injective hij)
  · rintro ⟨seats, fits, apart⟩
    have hlength := fits.length_eq
    have hseat : ∀ i : Fin entries.length, ∃ child,
        node.children[seats.get (i.cast hlength)]? = some child ∧ child.Fits (entries.get i) :=
      fun i => fits.get i.isLt (i.cast hlength).isLt
    -- What stands at a seat fits, so there is something at every seat.
    have hlt : ∀ i : Fin entries.length, seats.get (i.cast hlength) < node.children.length := by
      intro i
      obtain ⟨child, hchild, -⟩ := hseat i
      exact (List.getElem?_eq_some_iff.mp hchild).1
    refine ⟨fun i => ⟨seats.get (i.cast hlength), hlt i⟩, ?_, ?_⟩
    · intro i j hij
      have hcast := List.nodup_iff_injective_get.mp apart (congrArg Fin.val hij)
      exact Fin.cast_injective hlength hcast
    · intro i
      obtain ⟨child, hchild, hfits⟩ := hseat i
      obtain ⟨_, rfl⟩ := List.getElem?_eq_some_iff.mp hchild
      exact hfits

theorem Seating.reorder {body : List Node} {entries other : List Entry} {seats : List Nat}
    (h : Seating body entries seats) (hperm : other.Perm entries) :
    ∃ seats, Seating body other seats := by
  obtain ⟨moved, hfits, hmoved⟩ := List.perm_comp_forall₂ hperm h.fits
  exact ⟨moved, hfits, hmoved.symm.nodup h.apart⟩

/-- The seats of two groups of entries: each group is seated, and the groups share no position. -/
theorem seating_append_iff {body : List Node} {first second : List Entry} :
    (∃ seats, Seating body (first ++ second) seats) ↔
      ∃ claimed others, Seating body first claimed ∧ Seating body second others ∧
        claimed.Disjoint others := by
  constructor
  · rintro ⟨seats, fits, apart⟩
    have hfirst := List.forall₂_take_append seats first second fits.flip
    have hsecond := List.forall₂_drop_append seats first second fits.flip
    rw [← List.take_append_drop first.length seats, List.nodup_append'] at apart
    exact ⟨_, _, ⟨hfirst.flip, apart.1⟩, ⟨hsecond.flip, apart.2.1⟩, apart.2.2⟩
  · rintro ⟨claimed, others, hclaimed, hothers, hdisjoint⟩
    exact ⟨claimed ++ others, List.rel_append hclaimed.fits hothers.fits,
      hclaimed.apart.append hothers.apart hdisjoint⟩

/-! ## What is left over serves the plain types -/

def spare (body : List Node) (claimed : List Nat) : List (Node × Nat) :=
  body.zipIdx.filter fun seat => !claimed.contains seat.2

theorem mem_spare {body : List Node} {claimed : List Nat} {seat : Node × Nat} :
    seat ∈ spare body claimed ↔ body[seat.2]? = some seat.1 ∧ seat.2 ∉ claimed := by
  rw [spare, List.mem_filter, List.mem_zipIdx_iff_getElem?]
  simp

theorem nodup_spare (body : List Node) (claimed : List Nat) :
    ((spare body claimed).map Prod.snd).Nodup := by
  have hall : (body.zipIdx.map Prod.snd).Nodup := by
    rw [List.zipIdx_map_snd]
    exact List.nodup_range'
  exact hall.sublist (List.filter_sublist.map Prod.snd)

theorem leftOver_map_type (body : List Node) (claimed : List Nat) :
    (leftOver body claimed).map Node.type =
      (spare body claimed).map fun seat => seat.1.type := by
  rw [leftOver, List.map_map]
  rfl

theorem exists_pairs_of_seated {body : List Node} {types : List String} {seats : List Nat}
    (h : List.Forall₂ (fun type seat => ∃ child, body[seat]? = some child ∧ child.type = type)
      types seats) :
    ∃ pairs : List (Node × Nat), pairs.map Prod.snd = seats ∧
      pairs.map (fun pair => pair.1.type) = types ∧
      ∀ pair ∈ pairs, body[pair.2]? = some pair.1 := by
  induction h with
  | nil => exact ⟨[], rfl, rfl, by simp⟩
  | cons hhead _ ih =>
      obtain ⟨child, hget, rfl⟩ := hhead
      obtain ⟨pairs, rfl, rfl, hpairs⟩ := ih
      exact ⟨(child, _) :: pairs, rfl, rfl, List.forall_mem_cons.mpr ⟨hget, hpairs⟩⟩

/-- The statements left over have each type as often as it is listed exactly if the types can be
seated apart from the positions claimed. -/
theorem subperm_leftOver_iff {body : List Node} {claimed : List Nat} {types : List String} :
    types.Subperm ((leftOver body claimed).map Node.type) ↔
      ∃ others, Seating body (types.map Entry.type) others ∧ claimed.Disjoint others := by
  rw [leftOver_map_type]
  constructor
  · rintro ⟨served, hserved, hsub⟩
    obtain ⟨pairs, hpairs, rfl⟩ := List.sublist_map_iff.mp hsub
    have hmem : ∀ pair ∈ pairs, body[pair.2]? = some pair.1 ∧ pair.2 ∉ claimed :=
      fun pair hpair => mem_spare.mp (hpairs.subset hpair)
    have hfits : List.Forall₂ (fun type seat => ∃ child, body[seat]? = some child ∧
        child.Fits (.type type)) (pairs.map fun pair => pair.1.type) (pairs.map Prod.snd) := by
      rw [List.forall₂_map_left_iff, List.forall₂_map_right_iff, List.forall₂_same]
      exact fun pair hpair => ⟨pair.1, (hmem pair hpair).1, rfl⟩
    obtain ⟨others, hothers, hperm⟩ := List.perm_comp_forall₂ hserved.symm hfits
    refine ⟨others, ⟨List.forall₂_map_left_iff.mpr hothers, ?_⟩, ?_⟩
    · exact hperm.symm.nodup ((nodup_spare body claimed).sublist (hpairs.map Prod.snd))
    · intro position hclaimed hposition
      obtain ⟨pair, hpair, rfl⟩ := List.mem_map.mp (hperm.subset hposition)
      exact (hmem pair hpair).2 hclaimed
  · rintro ⟨others, ⟨hfits, hnodup⟩, hdisjoint⟩
    obtain ⟨pairs, rfl, rfl, hpairs⟩ := exists_pairs_of_seated (List.forall₂_map_left_iff.mp hfits)
    have hspare : pairs ⊆ spare body claimed := by
      intro pair hpair
      refine mem_spare.mpr ⟨hpairs pair hpair, fun hclaimed => ?_⟩
      exact hdisjoint hclaimed (List.mem_map_of_mem hpair)
    obtain ⟨taken, hperm, hsub⟩ := (List.Nodup.of_map Prod.snd hnodup).subperm hspare
    exact ⟨taken.map _, hperm.map _, hsub.map _⟩

/-! ## The nested entries are placed in every way -/

def nestedEntries : List Entry → List Requirement
  | [] => []
  | .type _ :: rest => nestedEntries rest
  | .nested parent contains :: rest => ⟨parent, contains⟩ :: nestedEntries rest

theorem perm_nestedEntries_append_plainTypes (entries : List Entry) :
    entries.Perm
      ((nestedEntries entries).map Requirement.entry ++ (plainTypes entries).map Entry.type) := by
  induction entries with
  | nil => exact .refl _
  | cons entry entries ih =>
      cases entry with
      | type name => exact (ih.cons _).trans List.perm_middle.symm
      | nested parent contains => exact ih.cons _

theorem sizeOf_contains_lt {entries : List Entry} {nested : Requirement}
    (h : nested ∈ nestedEntries entries) : sizeOf nested.contains < sizeOf entries := by
  induction entries with
  | nil => cases h
  | cons entry entries ih =>
      rw [List.cons.sizeOf_spec]
      cases entry with
      | type name =>
          have := ih h
          omega
      | nested parent contains =>
          rcases List.mem_cons.mp h with rfl | h
          · rw [Entry.nested.sizeOf_spec]
            simp only
            omega
          · have := ih h
            omega

theorem mem_fitting {parent : String} {test : List Node → Bool} {body : List Node}
    {position : Nat} : position ∈ fitting parent test body ↔
      ∃ child, body[position]? = some child ∧ child.type = parent ∧ test child.children = true := by
  simp only [fitting, List.mem_map, List.mem_filter, Prod.exists, Bool.and_eq_true, beq_iff_eq]
  constructor
  · rintro ⟨child, position, ⟨hmem, hchild⟩, rfl⟩
    exact ⟨child, List.mk_mem_zipIdx_iff_getElem?.mp hmem, hchild⟩
  · rintro ⟨child, hget, hchild⟩
    exact ⟨child, position, ⟨List.mk_mem_zipIdx_iff_getElem?.mpr hget, hchild⟩, rfl⟩

def fittingNested (body : List Node) (nested : Requirement) : List Nat :=
  fitting nested.parent (fun inner => satisfies inner nested.contains) body

/-- The options are the fitting positions of all nested entries, unless one of them has none. -/
theorem options_eq (body : List Node) (entries : List Entry) :
    options body entries = some ((nestedEntries entries).map (fittingNested body)) ∨
      options body entries = none ∧ [] ∈ (nestedEntries entries).map (fittingNested body) := by
  induction entries with
  | nil => exact Or.inl (by rw [options]; rfl)
  | cons entry entries ih =>
      cases entry with
      | type name => rwa [options]
      | nested parent contains =>
          have hfits : fitting parent
              (fun inner => settles (plainTypes contains) inner (options inner contains)) body =
                fittingNested body ⟨parent, contains⟩ := rfl
          rw [options, hfits, nestedEntries, List.map_cons]
          cases hcases : fittingNested body ⟨parent, contains⟩ with
          | nil => exact Or.inr ⟨rfl, List.mem_cons_self⟩
          | cons position positions =>
              rcases ih with hsome | ⟨hnone, hmem⟩
              · exact Or.inl (by simp only [hsome, Option.map_some])
              · exact Or.inr ⟨by simp only [hnone, Option.map_none], List.mem_cons_of_mem _ hmem⟩

/-- The search for a placement stops at the first of all placements that passes the test, so it
finds one exactly if some choice of different options passes. -/
theorem anyPlacementFrom_nil_iff {test : List Nat → Bool} {options : List (List Nat)} :
    anyPlacementFrom test [] options = true ↔ ∃ chosen,
      List.Forall₂ (fun option choice => choice ∈ option) options chosen ∧ chosen.Nodup ∧
        test chosen = true := by
  rw [anyPlacementFrom_eq, placementsFrom_eq_filter List.nodup_nil]
  simp only [List.nil_append, List.map_id', List.any_eq_true, List.mem_filter, decide_eq_true_eq,
    mem_product_iff, and_assoc]

theorem not_anyPlacementFrom_of_nil_mem {options : List (List Nat)} (h : [] ∈ options)
    (test : List Nat → Bool) : anyPlacementFrom test [] options = false := by
  rw [← Bool.not_eq_true, anyPlacementFrom_nil_iff]
  rintro ⟨chosen, hchosen, -⟩
  induction hchosen with
  | nil => cases h
  | cons hmem _ ih =>
      rcases List.mem_cons.mp h with rfl | h
      · cases hmem
      · exact ih h

/-- The search succeeds exactly if the nested entries have different fitting positions and the
statements left over have each plain type as often as it is listed. Giving up early when a nested
entry fits nowhere makes no difference. -/
theorem satisfies_eq_true_iff (body : List Node) (entries : List Entry) :
    satisfies body entries = true ↔ ∃ claimed,
      List.Forall₂ (fun nested position => position ∈ fittingNested body nested)
        (nestedEntries entries) claimed ∧ claimed.Nodup ∧
        (plainTypes entries).Subperm ((leftOver body claimed).map Node.type) := by
  have hplacement : satisfies body entries =
      anyPlacementFrom (fun claimed => (types (plainTypes entries) (leftOver body claimed)).all id)
        [] ((nestedEntries entries).map (fittingNested body)) := by
    rw [satisfies]
    rcases options_eq body entries with hsome | ⟨hnone, hmem⟩
    · rw [hsome, settles]
    · rw [hnone, settles, not_anyPlacementFrom_of_nil_mem hmem]
  rw [hplacement, anyPlacementFrom_nil_iff]
  simp only [List.forall₂_map_left_iff, types_all_iff_subperm]

theorem forall₂_congr_of_mem {α β : Type} {related related' : α → β → Prop} {sources : List α}
    (h : ∀ a ∈ sources, ∀ b, related a b ↔ related' a b) (targets : List β) :
    List.Forall₂ related sources targets ↔ List.Forall₂ related' sources targets := by
  rw [List.forall₂_iff_get, List.forall₂_iff_get]
  exact and_congr_right fun _ => forall₃_congr fun i hi _ => h _ (List.get_mem _ ⟨i, hi⟩) _

theorem seating_nested_iff {body : List Node} {nesteds : List Requirement}
    (hfits : ∀ nested ∈ nesteds, ∀ position, position ∈ fittingNested body nested ↔
      ∃ child, body[position]? = some child ∧ child.Fits nested.entry) (claimed : List Nat) :
    Seating body (nesteds.map Requirement.entry) claimed ↔
      List.Forall₂ (fun nested position => position ∈ fittingNested body nested) nesteds claimed ∧
        claimed.Nodup := by
  rw [forall₂_congr_of_mem hfits]
  constructor
  · rintro ⟨hseated, hnodup⟩
    exact ⟨List.forall₂_map_left_iff.mp hseated, hnodup⟩
  · rintro ⟨hseated, hnodup⟩
    exact ⟨List.forall₂_map_left_iff.mpr hseated, hnodup⟩

theorem satisfies_iff (node : Node) (entries : List Entry) :
    satisfies node.children entries = true ↔ node.Satisfies entries := by
  -- Nested entries are judged rightly because what they contain is smaller than all entries.
  have hfits : ∀ nested ∈ nestedEntries entries, ∀ position,
      position ∈ fittingNested node.children nested ↔
        ∃ child, node.children[position]? = some child ∧ child.Fits nested.entry := by
    intro nested hnested position
    have hlt := sizeOf_contains_lt hnested
    rw [fittingNested, mem_fitting]
    simp only [satisfies_iff _ nested.contains]
    rfl
  have hperm := perm_nestedEntries_append_plainTypes entries
  calc satisfies node.children entries = true
      ↔ ∃ claimed others,
          Seating node.children ((nestedEntries entries).map Requirement.entry) claimed ∧
          Seating node.children ((plainTypes entries).map Entry.type) others ∧
          claimed.Disjoint others := by
        simp only [satisfies_eq_true_iff, seating_nested_iff hfits, subperm_leftOver_iff,
          exists_and_left, and_assoc]
    _ ↔ ∃ seats, Seating node.children ((nestedEntries entries).map Requirement.entry ++
          (plainTypes entries).map Entry.type) seats := seating_append_iff.symm
    _ ↔ ∃ seats, Seating node.children entries seats :=
        ⟨fun ⟨_, h⟩ => h.reorder hperm, fun ⟨_, h⟩ => h.reorder hperm.symm⟩
    _ ↔ node.Satisfies entries := satisfies_iff_exists_seating.symm
termination_by sizeOf entries

-- The first branch fits both entries; the search takes it back from the first for the second.
example : satisfies
    [.node "IfStatement" [.node "ReturnStatement" []], .node "IfStatement" []]
    [.nested "IfStatement" [], .nested "IfStatement" [.type "ReturnStatement"]] = true := by
  cbv

end Matching

theorem Requirement.holdsAmong_iff (requirement : Requirement) (nodes : List Node) :
    requirement.holdsAmong nodes = true ↔
      ∃ node ∈ nodes, node.type = requirement.parent ∧ node.Satisfies requirement.contains := by
  rw [Requirement.holdsAmong, List.any_eq_true]
  simp only [Bool.and_eq_true, beq_iff_eq, Matching.satisfies_iff]

/-- A requirement holds of the nodes down to a depth exactly if one of them, taken in pre-order, has
the parent type and satisfies the entries. The depth bounds where that node may stand; how far its
nested entries look below it is not bounded. -/
theorem Requirement.holdsAmong_within_iff (requirement : Requirement) (nodes : List Node)
    (depth : Depth) :
    requirement.holdsAmong (Node.within depth.val nodes) = true ↔
      ∃ candidate ∈ Node.preorder depth.val nodes,
        candidate.type = requirement.parent ∧ candidate.Satisfies requirement.contains := by
  rw [Node.within_eq_preorder, Requirement.holdsAmong_iff]

end Rubric
