import Rubric.Proofs.Assignment
import Rubric.Proofs.Conversion
import Rubric.Proofs.Mention
import Rubric.Proofs.Showing

/-!
# What is found where

A requirement that holds finds all it asks for: each entry inside it, at any level, fits some node
inside the tree (`Requirement.exists_fits_of_holdsAmong`). The depth of the search bounds where the
outermost of these nodes stands, and none of the others.

The nodes of a skeleton in turn come from the syntax tree. `Skeleton.kept` lists the nodes that the
conversion keeps below the root. What is inside the skeleton is what the kept nodes are converted
to: every node has its source among them (`Skeleton.exists_source`), and every one of them is found
as a node (`Skeleton.exists_image`).
-/

namespace Rubric

/-- Each member of the first of two lists that are related one by one has a related one in the
second. -/
theorem exists_related_of_mem {α β : Type} {related : α → β → Prop} {items : List α}
    {others : List β} (h : List.Forall₂ related items others) {item : α} (hitem : item ∈ items) :
    ∃ other ∈ others, related item other := by
  induction h with
  | nil => cases hitem
  | cons hrelated _ ih =>
      rcases List.mem_cons.mp hitem with rfl | hrest
      · exact ⟨_, List.mem_cons_self, hrelated⟩
      · obtain ⟨other, hother, hothers⟩ := ih hrest
        exact ⟨other, List.mem_cons_of_mem _ hother, hothers⟩

/-! ## Nodes inside a tree -/

namespace Node

/-- A node is inside a tree if it is the root or is inside one of the children. -/
inductive Inside : Node → Node → Prop
  | self {node : Node} : Inside node node
  | child {inner child tree : Node} (mem : child ∈ tree.children) (inside : Inside inner child) :
      Inside inner tree

theorem Inside.trans {inner middle tree : Node} (h : inner.Inside middle)
    (hmiddle : middle.Inside tree) : inner.Inside tree := by
  induction hmiddle with
  | self => exact h
  | child mem _ ih => exact .child mem ih

theorem exists_tree_of_mem_preorder {depth : Nat} {nodes : List Node} {visited : Node}
    (h : visited ∈ preorder depth nodes) : ∃ tree ∈ nodes, visited.Inside tree := by
  induction depth generalizing nodes with
  | zero => cases h
  | succ depth ih =>
      obtain ⟨tree, htree, hvisited⟩ := List.mem_flatMap.mp h
      rcases List.mem_cons.mp hvisited with rfl | hbelow
      · exact ⟨visited, htree, .self⟩
      · obtain ⟨child, hchild, hinside⟩ := ih hbelow
        exact ⟨tree, htree, .child hchild hinside⟩

theorem Inside.exists_depth {inner tree : Node} (h : inner.Inside tree) {nodes : List Node}
    (htree : tree ∈ nodes) : ∃ depth : Depth, inner ∈ preorder depth.val nodes := by
  induction h generalizing nodes with
  | self => exact ⟨⟨1, Nat.one_pos⟩, List.mem_flatMap.mpr ⟨_, htree, List.mem_cons_self⟩⟩
  | child mem _ ih =>
      obtain ⟨depth, hvisited⟩ := ih mem
      exact ⟨⟨depth.val + 1, Nat.succ_pos _⟩,
        List.mem_flatMap.mpr ⟨_, htree, List.mem_cons_of_mem _ hvisited⟩⟩

/-! ## What a satisfied requirement finds -/

theorem Fits.type_eq {statement : Node} {entry : Entry} (h : statement.Fits entry) :
    statement.type = entry.asked := by
  cases entry with
  | type name => exact h
  | nested parent contains => exact h.1

theorem Satisfies.exists_child {statement : Node} {entries : List Entry}
    (h : statement.Satisfies entries) {entry : Entry} (hentry : entry ∈ entries) :
    ∃ child ∈ statement.children, child.Fits entry := by
  obtain ⟨place, -, hfits⟩ := satisfies_iff_exists_place.mp h
  obtain ⟨i, rfl⟩ := List.mem_iff_get.mp hentry
  exact ⟨_, List.get_mem _ (place i), hfits i⟩

/-- Inside a statement that fits an entry there is one that fits, for every entry inside that. -/
theorem Fits.exists_inside {statement : Node} {inner entry : Entry} (h : statement.Fits entry)
    (hinside : inner.Inside entry) : ∃ below : Node, below.Inside statement ∧ below.Fits inner := by
  induction hinside generalizing statement with
  | self => exact ⟨statement, .self, h⟩
  | member parent mem _ ih =>
      obtain ⟨child, hchild, hfits⟩ := h.2.exists_child mem
      obtain ⟨below, hbelow, hinner⟩ := ih hfits
      exact ⟨below, .child hchild hbelow, hinner⟩

end Node

theorem Requirement.exists_fits_of_holdsAmong {requirement : Requirement} {nodes : List Node}
    {depth : Depth} (h : requirement.holdsAmong (Node.within depth.val nodes) = true)
    {inner : Entry} (hinside : inner.Inside requirement.entry) :
    ∃ tree ∈ nodes, ∃ found : Node, found.Inside tree ∧ found.Fits inner := by
  rw [Node.within_eq_preorder, holdsAmong_iff] at h
  obtain ⟨candidate, hvisited, hfits⟩ := h
  have hcandidate : candidate.Fits requirement.entry := hfits
  obtain ⟨tree, htree, hin⟩ := Node.exists_tree_of_mem_preorder hvisited
  obtain ⟨found, hfound, hinner⟩ := hcandidate.exists_inside hinside
  exact ⟨tree, htree, found, hfound.trans hin, hinner⟩

/-! ## Where the nodes of a skeleton come from -/

namespace RawNode

variable {vocabulary : Vocabulary}

/-- The children of a converted node are the conversions of what its body fields contribute,
whichever fields these are. -/
theorem forall₂_children_of_convert {type : String} {fields : Members} {names : List String}
    {tree : Node} (h : (do
      let found ← childrenIn fields names
      Skeleton.convert vocabulary ⟨type, found, []⟩ []) = .ok tree) :
    List.Forall₂ (fun raw node => raw.conversion vocabulary = .ok node)
      ((names.filterMap fields.get?).flatMap statementsOf) tree.children := by
  rw [childrenIn_eq] at h
  cases hfault : ((names.filterMap fields.get?).filterMap block?).findSome? bodyFault with
  | some fault =>
      rw [hfault] at h
      cases h
  | none =>
      rw [hfault] at h
      -- No block is at fault, so the frames start from all that the fields contribute.
      replace h : Skeleton.convert vocabulary
        ⟨type, (names.filterMap fields.get?).flatMap statementsOf, []⟩ [] = .ok tree := h
      rw [Skeleton.convert_of_agrees fun child _ => Skeleton.agrees vocabulary child] at h
      cases hnodes : ((names.filterMap fields.get?).flatMap statementsOf).mapM
          (conversion vocabulary) with
      | error fault =>
          rw [hnodes] at h
          cases h
      | ok nodes =>
          rw [hnodes] at h
          replace h : Skeleton.convert vocabulary ⟨type, [], nodes.reverse ++ []⟩ [] = .ok tree := h
          rw [Skeleton.convert_nil_nil, List.append_nil, List.reverse_reverse] at h
          cases h
          exact mapM_eq_ok_iff.mp hnodes

theorem forall₂_children {raw : RawNode} {tree : Node} (h : raw.conversion vocabulary = .ok tree) :
    List.Forall₂ (fun raw node => raw.conversion vocabulary = .ok node)
      (raw.statements vocabulary) tree.children := by
  rw [← toNode_eq_conversion] at h
  exact forall₂_children_of_convert h

/-- A node has the conversions of its statements for children if all blocks it holds can be
listed. -/
theorem conversion_eq_ok {raw : RawNode} {nodes : List Node}
    (hblocks : (raw.heldBlocks vocabulary).findSome? bodyFault = none)
    (hnodes : List.Forall₂ (fun raw node => raw.conversion vocabulary = .ok node)
      (raw.statements vocabulary) nodes) :
    raw.conversion vocabulary = .ok (.node raw.type nodes) := by
  rw [conversion_eq, hblocks, mapM_eq_ok_iff.mpr hnodes]
  rfl

theorem visits_eq (raw : RawNode) :
    raw.visits vocabulary =
      raw :: (raw.statements vocabulary).flatMap (visits vocabulary) := by
  rw [visits, List.flatMap_subtype (fun _ _ => rfl), List.unattach_attach]

theorem exists_source {raw : RawNode} {tree inner : Node}
    (h : raw.conversion vocabulary = .ok tree) (hinner : inner.Inside tree) :
    ∃ source ∈ raw.visits vocabulary, source.conversion vocabulary = .ok inner := by
  induction hinner generalizing raw with
  | self =>
      rw [visits_eq]
      exact ⟨raw, List.mem_cons_self, h⟩
  | child mem _ ih =>
      obtain ⟨statement, hstatement, hchild⟩ := exists_related_of_mem (forall₂_children h).flip mem
      obtain ⟨source, hsource, himage⟩ := ih hchild
      rw [visits_eq]
      exact ⟨source, List.mem_cons_of_mem _
        (List.mem_flatMap.mpr ⟨statement, hstatement, hsource⟩), himage⟩

theorem exists_image (raw : RawNode) {tree : Node} {source : RawNode}
    (h : raw.conversion vocabulary = .ok tree) (hsource : source ∈ raw.visits vocabulary) :
    ∃ inner : Node, inner.Inside tree ∧ source.conversion vocabulary = .ok inner := by
  rw [visits_eq, List.mem_cons, List.mem_flatMap] at hsource
  rcases hsource with rfl | ⟨statement, hstatement, hsource⟩
  · exact ⟨tree, .self, h⟩
  · have hlt := sizeOf_fields_lt_of_mem_statements hstatement
    obtain ⟨child, hchild, hconverted⟩ := exists_related_of_mem (forall₂_children h) hstatement
    obtain ⟨inner, hinner, himage⟩ := exists_image statement hconverted hsource
    exact ⟨inner, .child hchild hinner, himage⟩
termination_by sizeOf raw.fields

end RawNode

namespace Skeleton

/-- The fields in which a root keeps statements. A root whose type is no string has those of an
unknown type. -/
def rootFields (vocabulary : Vocabulary) (members : Members) : List String :=
  match members.get? "type" with
  | some (.string type) => vocabulary.bodyFields type
  | _ => Vocabulary.fallbackFields

/-- The statements directly inside the root of a syntax tree, in order. -/
def top (vocabulary : Vocabulary) : Value → List RawNode
  | .object members =>
    ((rootFields vocabulary members).filterMap (Members.get? members)).flatMap
      RawNode.statementsOf
  | _ => []

/-- The nodes of a syntax tree that the conversion keeps below the root, each before its
statements. -/
def kept (vocabulary : Vocabulary) (raw : Value) : List RawNode :=
  (top vocabulary raw).flatMap (RawNode.visits vocabulary)

variable {vocabulary : Vocabulary} {raw : Value} {skeleton : Skeleton}

theorem exists_node_of_bind_eq_ok {result : Except RawFault Node} {type : Value}
    (h : (do
      let node ← result
      return (⟨type, node.children⟩ : Skeleton)) = .ok skeleton) :
    ∃ node, result = .ok node ∧ skeleton.children = node.children := by
  cases result with
  | error fault => cases h
  | ok node =>
      cases h
      exact ⟨node, rfl, rfl⟩

theorem forall₂_top (h : ofValue vocabulary raw = .ok skeleton) :
    List.Forall₂ (fun raw node => raw.conversion vocabulary = .ok node) (top vocabulary raw)
      skeleton.children := by
  cases raw with
  | object members =>
      rw [top, rootFields]
      rw [ofValue] at h
      cases htype : Members.get? members "type" with
      | none =>
          rw [htype] at h
          cases h
      | some type =>
          rw [htype] at h
          cases type with
          | string type =>
              obtain ⟨node, hnode, hchildren⟩ := exists_node_of_bind_eq_ok h
              rw [hchildren]
              exact RawNode.forall₂_children_of_convert hnode
          | array items => cases h
          | object inner => cases h
          -- A type that is no text, but can be looked up: the root has the fallback fields.
          | _ =>
              dsimp only [isUsableType, if_true] at h
              rw [← bind_assoc] at h
              obtain ⟨node, hnode, hchildren⟩ := exists_node_of_bind_eq_ok h
              rw [hchildren]
              exact RawNode.forall₂_children_of_convert hnode
  | _ => cases h

theorem ofValue_eq_ok {root : RawNode} {nodes : List Node}
    (hroot : RawNode.ofValue? raw = some root)
    (hnodes : root.conversion vocabulary = .ok (.node root.type nodes)) :
    ofValue vocabulary raw = .ok ⟨.string root.type, nodes⟩ := by
  rw [ofValue_eq_toNode vocabulary hroot, RawNode.toNode_eq_conversion, hnodes]
  rfl

/-- Every node inside a skeleton is what some kept node is converted to. -/
theorem exists_source (h : ofValue vocabulary raw = .ok skeleton) {tree inner : Node}
    (htree : tree ∈ skeleton.children) (hinner : inner.Inside tree) :
    ∃ source ∈ kept vocabulary raw, source.conversion vocabulary = .ok inner := by
  obtain ⟨statement, hstatement, hconverted⟩ := exists_related_of_mem (forall₂_top h).flip htree
  obtain ⟨source, hsource, himage⟩ := RawNode.exists_source hconverted hinner
  exact ⟨source, List.mem_flatMap.mpr ⟨statement, hstatement, hsource⟩, himage⟩

theorem exists_image (h : ofValue vocabulary raw = .ok skeleton) {source : RawNode}
    (hsource : source ∈ kept vocabulary raw) :
    ∃ tree ∈ skeleton.children, ∃ inner : Node, inner.Inside tree ∧
      source.conversion vocabulary = .ok inner := by
  obtain ⟨statement, hstatement, hsource⟩ := List.mem_flatMap.mp hsource
  obtain ⟨tree, htree, hconverted⟩ := exists_related_of_mem (forall₂_top h) hstatement
  obtain ⟨inner, hinner, himage⟩ := RawNode.exists_image statement hconverted hsource
  exact ⟨tree, htree, inner, hinner, himage⟩

end Skeleton

end Rubric
