import Mathlib.Data.List.Permutation
import Rubric.Grading
import Rubric.Proofs.Counting
import Rubric.Proofs.Occurrence

/-!
# What a vocabulary says about grading

A vocabulary tells two things about the types that requirements mention: which ones it does not
know, and which ones hold no statements. Both bear on what can ever be matched.

A type that holds no statements is the type of leaves. So no requirement holds that looks inside
such a type, be it at the top or nested at any level (`Requirement.not_holdsAmong_of_flat`).

A type that is not known may still occur. The conversion keeps the nodes that it finds in the body
fields of other nodes, of whatever type they are. `Grading.misses_iff_not_kept` gives the exact
condition under which an unknown type is never matched: no node of the type is kept.
`Grading.matches_exportedClass` is a tree with a kept node of an unknown type, which is matched.
-/

namespace Rubric

/-! ## Types that hold no statements -/

/-- Every kind that requirements cannot look inside keeps no statements, the root of a program
apart. -/
def Vocabulary.FlatUnlessStructural (vocabulary : Vocabulary) : Prop :=
  ∀ kind ∈ vocabulary.kinds, kind.structural = false → kind.name ≠ "Program" → kind.bodyFields = []

instance (vocabulary : Vocabulary) : Decidable vocabulary.FlatUnlessStructural :=
  inferInstanceAs (Decidable (∀ kind ∈ vocabulary.kinds, _))

theorem Vocabulary.flatUnlessStructural_standard : standard.FlatUnlessStructural := by
  decide +kernel

theorem Vocabulary.FlatUnlessStructural.bodyFields_eq_nil {vocabulary : Vocabulary}
    (h : vocabulary.FlatUnlessStructural) {type : String} {types : List String}
    (htype : type ∈ vocabulary.nonStructuralTypes types) (hprogram : type ≠ "Program") :
    vocabulary.bodyFields type = [] := by
  obtain ⟨-, kind, hkind, hstructural⟩ := mem_nonStructuralTypes_iff.mp htype
  obtain ⟨hmem, rfl⟩ := mem_kinds_of_find?_eq_some hkind
  rw [bodyFields, hkind]
  exact h kind hmem hstructural hprogram

theorem RawNode.children_eq_nil_of_conversion {vocabulary : Vocabulary} {source : RawNode}
    {node : Node} (h : source.conversion vocabulary = .ok node)
    (hfields : vocabulary.bodyFields node.type = []) : node.children = [] := by
  have hstatements : source.statements vocabulary = [] := by
    rw [statements, held, ← type_of_conversion_eq_ok h, hfields]
    rfl
  have hchildren := forall₂_children h
  rw [hstatements] at hchildren
  exact List.forall₂_nil_left_iff.mp hchildren

theorem Node.Satisfies.eq_nil {leaf : Node} {entries : List Entry} (h : leaf.Satisfies entries)
    (hleaf : leaf.children = []) : entries = [] := by
  refine List.eq_nil_iff_forall_not_mem.mpr fun entry hentry => ?_
  obtain ⟨child, hchild, -⟩ := h.exists_child hentry
  rw [hleaf] at hchild
  cases hchild

/-- No requirement holds of a skeleton if it, or one nested in it at any level, asks for something
inside a type that the vocabulary says holds no statements. The root of a program is the one kind
whose word is not taken for it; the standard vocabulary keeps its word for all others. -/
theorem Requirement.not_holdsAmong_of_flat :
    Vocabulary.standard.FlatUnlessStructural ∧
    ∀ (vocabulary : Vocabulary) (raw : Value) (skeleton : Skeleton) (depth : Depth)
      (requirement inner : Requirement), vocabulary.FlatUnlessStructural →
      Skeleton.ofValue vocabulary raw = .ok skeleton →
      inner.entry.Inside requirement.entry → inner.contains ≠ [] → inner.parent ≠ "Program" →
      inner.parent ∈ vocabulary.nonStructuralTypes requirement.parentTypes →
      requirement.holdsAmong (Node.within depth.val skeleton.children) = false := by
  refine ⟨Vocabulary.flatUnlessStructural_standard, ?_⟩
  intro vocabulary raw skeleton depth requirement inner hflat h hinside hcontains hprogram hparent
  rw [← Bool.not_eq_true]
  intro hholds
  -- The inner requirement is satisfied at some node of the skeleton, and that node is a leaf.
  obtain ⟨tree, htree, found, hfound, htype, hsatisfies⟩ :=
    exists_fits_of_holdsAmong hholds hinside
  obtain ⟨source, -, hconverted⟩ := Skeleton.exists_source h htree hfound
  have hfields : vocabulary.bodyFields found.type = [] := by
    rw [htype]
    exact hflat.bodyFields_eq_nil hparent hprogram
  exact hcontains (hsatisfies.eq_nil (RawNode.children_eq_nil_of_conversion hconverted hfields))

def loopedCall : Value :=
  .object [("type", .string "Program"), ("body", .array [.object [
    ("type", .string "WhileStatement"),
    ("body", .object [("type", .string "BlockStatement"), ("body", .array [.object [
      ("type", .string "ExpressionStatement")]])])]])]

def Requirement.branchInCall : Requirement :=
  ⟨"WhileStatement", [.nested "ExpressionStatement" [.type "IfStatement"]]⟩

/-- The call is where the requirement looks for it, but nothing can be inside it. -/
theorem Requirement.not_holdsAmong_branchInCall :
    Skeleton.ofValue .standard loopedCall =
      .ok ⟨.string "Program", [.node "WhileStatement" [.node "ExpressionStatement" []]]⟩ ∧
    "ExpressionStatement" ∈ Vocabulary.standard.nonStructuralTypes branchInCall.parentTypes ∧
    branchInCall.holdsAmong (Node.within Depth.standard.val
      [.node "WhileStatement" [.node "ExpressionStatement" []]]) = false := by
  have hskeleton : Skeleton.ofValue .standard loopedCall =
      .ok ⟨.string "Program", [.node "WhileStatement" [.node "ExpressionStatement" []]]⟩ := by
    have hroot : RawNode.ofValue? loopedCall = some ⟨"Program", _⟩ := rfl
    refine Skeleton.ofValue_eq_ok hroot (RawNode.conversion_eq_ok rfl (.cons ?_ .nil))
    exact RawNode.conversion_eq_ok rfl (.cons (RawNode.conversion_eq_ok rfl .nil) .nil)
  have hflat : "ExpressionStatement" ∈
      Vocabulary.standard.nonStructuralTypes branchInCall.parentTypes :=
    Vocabulary.mem_nonStructuralTypes_iff.mpr ⟨by decide, _, rfl, rfl⟩
  have hinside : (Requirement.mk "ExpressionStatement" [.type "IfStatement"]).entry.Inside
      branchInCall.entry := .member _ List.mem_cons_self .self
  refine ⟨hskeleton, hflat, ?_⟩
  exact not_holdsAmong_of_flat.2 .standard loopedCall _ .standard branchInCall
    ⟨"ExpressionStatement", [.type "IfStatement"]⟩ Vocabulary.flatUnlessStructural_standard
    hskeleton hinside (List.cons_ne_nil _ _) (by decide) hflat

/-! ## Types that are not known -/

/-- Nothing that mentions a type is matched: where it is demanded it fails, where it is forbidden it
passes, and every structure with the type in it, at any level, fails. -/
structure Report.Misses (report : Report) (set : RequirementSet) (name : String) : Prop where
  must : List.Forall₂ (fun type item => type = name → item.passed = false) set.must report.must
  mustNot : List.Forall₂ (fun type item => type = name → item.passed = true)
    set.mustNot report.mustNot
  structures : List.Forall₂ (fun requirement item =>
    name ∈ requirement.nodeTypes → item.passed = false) set.structures report.structures

namespace Grading

theorem forall₂_tallyFrom {present : List String} {name : String} (h : name ∉ present)
    (before types : List String) :
    List.Forall₂ (fun type met => type = name → met = false) types
      (Matching.tallyFrom before present types) := by
  induction types generalizing before with
  | nil => exact .nil
  | cons first types ih =>
      refine .cons ?_ (ih (before ++ [first]))
      rintro rfl
      rw [List.count_eq_zero_of_not_mem h]
      exact decide_eq_false (Nat.not_lt_zero _)

theorem forall₂_mustItems {types : List String} {nodes : List Node} {judged : String → Bool → Prop}
    (h : List.Forall₂ judged types (Matching.types types nodes)) :
    List.Forall₂ (fun type item => judged type item.passed) types (mustItems types nodes) := by
  rw [mustItems]
  generalize Matching.types types nodes = flags at h
  induction h with
  | nil => exact .nil
  | cons hflag _ ih => exact .cons hflag ih

theorem misses_of_not_inside (set : RequirementSet) (depth : Depth) {root : Node} {name : String}
    (h : ∀ child ∈ root.children, ∀ inner : Node, inner.Inside child → inner.type ≠ name) :
    (tree set depth root).Misses set name := by
  have hvisited : name ∉ (Node.within depth.val root.children).map Node.type := by
    rw [Node.within_eq_preorder]
    intro hmem
    obtain ⟨node, hnode, htype⟩ := List.mem_map.mp hmem
    obtain ⟨child, hchild, hinside⟩ := Node.exists_tree_of_mem_preorder hnode
    exact h child hchild node hinside htype
  refine ⟨?_, ?_, ?_⟩
  · have hflags : List.Forall₂ (fun type met => type = name → met = false) set.must
        (Matching.types set.must (Node.within depth.val root.children)) := by
      rw [Matching.types_eq_tally]
      exact forall₂_tallyFrom hvisited [] set.must
    exact forall₂_mustItems hflags
  · show List.Forall₂ _ set.mustNot (mustNotItems set.mustNot _)
    rw [mustNotItems, List.forall₂_map_right_iff, List.forall₂_same]
    rintro type - rfl
    simpa using hvisited
  · show List.Forall₂ _ set.structures (structureItems set.structures _)
    rw [structureItems, List.forall₂_map_right_iff, List.forall₂_same]
    intro requirement _ hmentioned
    rw [← Bool.not_eq_true]
    intro hholds
    -- The entry that asks for the type would be found somewhere inside the trees.
    obtain ⟨inner, hinner, rfl⟩ := Entry.exists_inside_of_mem_nodeTypes _ hmentioned
    obtain ⟨child, hchild, found, hfound, hfits⟩ :=
      Requirement.exists_fits_of_holdsAmong hholds hinner
    exact h child hchild found hfound hfits.type_eq

theorem not_misses_of_mem {depth : Depth} {root visited : Node}
    (h : visited ∈ Node.preorder depth.val root.children) :
    ¬ (tree ⟨[], [visited.type], []⟩ depth root).Misses ⟨[], [visited.type], []⟩ visited.type := by
  intro hmisses
  cases hmisses.mustNot with
  | cons hpassed _ =>
      have habsent := hpassed rfl
      simp only [Node.within_eq_preorder, Bool.not_eq_true', List.any_eq_false, beq_iff_eq]
        at habsent
      exact habsent visited h rfl

/-- A type that the vocabulary does not know is never matched, whatever is required and however deep
the search, exactly if the conversion keeps no node of the type. -/
theorem misses_iff_not_kept {vocabulary : Vocabulary} {raw : Value} {skeleton : Skeleton}
    (h : Skeleton.ofValue vocabulary raw = .ok skeleton) {root : Node}
    (hroot : root.children = skeleton.children) {name : String}
    (hname : vocabulary.knows name = false) :
    (∀ (set : RequirementSet) (depth : Depth), name ∈ vocabulary.unknownTypes set.nodeTypes →
      (tree set depth root).Misses set name) ↔
    ∀ source ∈ Skeleton.kept vocabulary raw, source.type ≠ name := by
  constructor
  · rintro hmisses source hsource rfl
    obtain ⟨child, hchild, inner, hinner, hconverted⟩ := Skeleton.exists_image h hsource
    obtain ⟨depth, hvisited⟩ := hinner.exists_depth (hroot ▸ hchild)
    refine not_misses_of_mem hvisited ?_
    rw [RawNode.type_of_conversion_eq_ok hconverted]
    refine hmisses _ depth (Vocabulary.mem_unknownTypes_iff.mpr ⟨?_, hname⟩)
    exact RequirementSet.mem_nodeTypes_iff.mpr (Or.inr (Or.inl List.mem_cons_self))
  · intro hkept set depth _
    refine misses_of_not_inside set depth fun child hchild inner hinner htype => ?_
    obtain ⟨source, hsource, hconverted⟩ := Skeleton.exists_source h (hroot ▸ hchild) hinner
    exact hkept source hsource ((RawNode.type_of_conversion_eq_ok hconverted).symm.trans htype)

def exportedClass : Value :=
  .object [("type", .string "Program"), ("body", .array [.object [
    ("type", .string "ExportDefaultDeclaration"),
    ("declaration", .object [("type", .string "ClassExpression")])]])]

theorem ofValue_exportedClass :
    Skeleton.ofValue .standard exportedClass = .ok ⟨.string "Program",
      [.node "ExportDefaultDeclaration" [.node "ClassExpression" []]]⟩ := by
  have hroot : RawNode.ofValue? exportedClass = some ⟨"Program", _⟩ := rfl
  refine Skeleton.ofValue_eq_ok hroot (RawNode.conversion_eq_ok rfl (.cons ?_ .nil))
  exact RawNode.conversion_eq_ok rfl (.cons (RawNode.conversion_eq_ok rfl .nil) .nil)

theorem kept_exportedClass :
    (Skeleton.kept .standard exportedClass).map RawNode.type =
      ["ExportDefaultDeclaration", "ClassExpression"] := by
  show (([⟨"ExportDefaultDeclaration", _⟩] : List RawNode).flatMap
    (RawNode.visits .standard)).map RawNode.type = _
  rw [List.flatMap_singleton, RawNode.visits_eq]
  show "ExportDefaultDeclaration" :: (([⟨"ClassExpression", _⟩] : List RawNode).flatMap
    (RawNode.visits .standard)).map RawNode.type = _
  rw [List.flatMap_singleton, RawNode.visits_eq]
  rfl

/-- A type that is neither known nor kept is never matched in the exported class. -/
theorem misses_loop_exportedClass :
    Skeleton.ofValue .standard exportedClass = .ok ⟨.string "Program",
      [.node "ExportDefaultDeclaration" [.node "ClassExpression" []]]⟩ ∧
    Vocabulary.standard.knows "Loop" = false ∧
    ∀ (set : RequirementSet) (depth : Depth),
      "Loop" ∈ Vocabulary.standard.unknownTypes set.nodeTypes →
      (tree set depth (.node "Program"
        [.node "ExportDefaultDeclaration" [.node "ClassExpression" []]])).Misses set "Loop" := by
  have hkept : ∀ source ∈ Skeleton.kept .standard exportedClass, source.type ≠ "Loop" := by
    intro source hsource htype
    have hmem : "Loop" ∈ (Skeleton.kept .standard exportedClass).map RawNode.type :=
      List.mem_map.mpr ⟨source, hsource, htype⟩
    rw [kept_exportedClass] at hmem
    exact absurd hmem (by decide)
  exact ⟨ofValue_exportedClass, rfl,
    (misses_iff_not_kept ofValue_exportedClass rfl rfl).mpr hkept⟩

/-- A class expression, demanded, forbidden, and demanded inside an export. -/
def aboutClassExpressions : RequirementSet :=
  ⟨["ClassExpression"], ["ClassExpression"],
    [⟨"ExportDefaultDeclaration", [.type "ClassExpression"]⟩]⟩

/-- The conversion keeps a class expression that is exported, and so it is matched, although the
vocabulary does not know its type: what demands it passes and what forbids it fails. -/
theorem matches_exportedClass :
    Skeleton.ofValue .standard exportedClass = .ok ⟨.string "Program",
      [.node "ExportDefaultDeclaration" [.node "ClassExpression" []]]⟩ ∧
    "ClassExpression" ∈ Vocabulary.standard.unknownTypes aboutClassExpressions.nodeTypes ∧
    let report := tree aboutClassExpressions .standard (.node "Program"
      [.node "ExportDefaultDeclaration" [.node "ClassExpression" []]])
    report.must.map Item.passed = [true] ∧ report.mustNot.map Item.passed = [false] ∧
      report.structures.map Item.passed = [true] := by
  have hunknown : "ClassExpression" ∈
      Vocabulary.standard.unknownTypes aboutClassExpressions.nodeTypes :=
    Vocabulary.mem_unknownTypes_iff.mpr
      ⟨RequirementSet.mem_nodeTypes_iff.mpr (Or.inl List.mem_cons_self), rfl⟩
  refine ⟨ofValue_exportedClass, hunknown, ?_, ?_, ?_⟩
  · simp only [tree, mustItems, Matching.types_eq_tally, Node.within_eq_preorder]
    rfl
  · simp only [tree, mustNotItems, Node.within_eq_preorder]
    rfl
  · simp only [tree, structureItems, Node.within_eq_preorder, aboutClassExpressions,
      List.map_cons, List.map_nil]
    cbv

end Grading

end Rubric
