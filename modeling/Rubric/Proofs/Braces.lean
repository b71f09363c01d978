import Mathlib.Data.List.Forall2
import Rubric.Grading
import Rubric.Proofs.Conversion

/-!
# Braces around a single statement

A statement that a field holds may stand on its own or in braces, as a block with that one statement
in it. `Value.Braced` relates a syntax tree to the same tree with braces put around one such
statement, at any place: below lists, inside blocks, in fields that hold no statements for the
vocabulary. `Skeleton.ofValue_eq_of_braced` states that the braces make no difference to the
skeleton, nor to the fault if there is none, and so none to grading.

A block is looked at in three ways: as what a field holds, as an item of a list, and as what another
block has for its body. Two values are `Alike` if none of these tells them apart. The braced
statement is alike to the bare one though it is not as an item of a list, which is why the induction
carries two statements: values with braces inside are alike, and so are the nodes they stand for.
-/

namespace Rubric

def Value.inBraces (statement : Value) : Value :=
  .object [("type", .string RawNode.blockType), ("body", .array [statement])]

/-- The second value is the first with braces around one statement that an object holds in some
field: a field of the value itself, or of a value anywhere inside it. -/
inductive Value.Braced : Value → Value → Prop
  | field (before after : Members) {key : String} {statement : Value} {node : RawNode}
      (key_ne : key ≠ "type") (is_node : RawNode.ofValue? statement = some node)
      (not_block : node.type ≠ RawNode.blockType) :
      Value.Braced (.object (before ++ (key, statement) :: after))
        (.object (before ++ (key, statement.inBraces) :: after))
  | member (before after : Members) (key : String) {value braced : Value}
      (inside : Value.Braced value braced) :
      Value.Braced (.object (before ++ (key, value) :: after))
        (.object (before ++ (key, braced) :: after))
  | item (before after : List Value) {value braced : Value} (inside : Value.Braced value braced) :
      Value.Braced (.array (before ++ value :: after)) (.array (before ++ braced :: after))

namespace RawNode

def isListed : Value → Bool
  | .array _ => true
  | .string _ => true
  | _ => false

theorem bodyFault_eq (block : RawNode) :
    block.bodyFault =
      match block.fields.get? "body" with
      | none => some .missingBody
      | some body => if isListed body then none else some .bodyNotAList := by
  rw [bodyFault]
  cases block.fields.get? "body" with
  | none => rfl
  | some body => cases body <;> rfl

/-- Two values that cannot be told apart: not as what a field holds, and not as the body of a
block. -/
structure Alike (vocabulary : Vocabulary) (value other : Value) : Prop where
  fault : (block? value).bind bodyFault = (block? other).bind bodyFault
  statements : (statementsOf value).mapM (conversion vocabulary) =
    (statementsOf other).mapM (conversion vocabulary)
  items : (nodeItems (some value)).mapM (conversion vocabulary) =
    (nodeItems (some other)).mapM (conversion vocabulary)
  listed : isListed value = isListed other

/-- Every field holds alike values, or is missing from both. -/
def AlikeFields (vocabulary : Vocabulary) (fields others : Members) : Prop :=
  ∀ key, fields.get? key = none ∧ others.get? key = none ∨
    ∃ value other, fields.get? key = some value ∧ others.get? key = some other ∧
      Alike vocabulary value other

/-- Two nodes of one type with alike fields. -/
structure AlikeNode (vocabulary : Vocabulary) (node other : RawNode) : Prop where
  type_eq : node.type = other.type
  fields : AlikeFields vocabulary node.fields other.fields

variable {vocabulary : Vocabulary}

theorem Alike.refl (value : Value) : Alike vocabulary value value :=
  ⟨rfl, rfl, rfl, rfl⟩

/-! ## Alike fields give the same skeleton -/

theorem AlikeFields.held {fields others : Members} (h : AlikeFields vocabulary fields others)
    (names : List String) :
    List.Forall₂ (Alike vocabulary) (names.filterMap fields.get?)
      (names.filterMap others.get?) := by
  induction names with
  | nil => exact .nil
  | cons name names ih =>
      rcases h name with ⟨hvalue, hother⟩ | ⟨value, other, hvalue, hother, halike⟩
      · rw [List.filterMap_cons_none hvalue, List.filterMap_cons_none hother]
        exact ih
      · rw [List.filterMap_cons_some hvalue, List.filterMap_cons_some hother]
        exact .cons halike ih

theorem faults_of_alike {values others : List Value}
    (h : List.Forall₂ (Alike vocabulary) values others) :
    (values.filterMap block?).findSome? bodyFault =
      (others.filterMap block?).findSome? bodyFault := by
  induction h with
  | nil => rfl
  | cons halike _ ih => rw [findSome?_blocks_cons, findSome?_blocks_cons, halike.fault, ih]

theorem mapM_statements_of_alike {values others : List Value}
    (h : List.Forall₂ (Alike vocabulary) values others) :
    (values.flatMap statementsOf).mapM (conversion vocabulary) =
      (others.flatMap statementsOf).mapM (conversion vocabulary) := by
  induction h with
  | nil => rfl
  | cons halike _ ih =>
      rw [List.flatMap_cons, List.flatMap_cons, List.mapM_append, List.mapM_append,
        halike.statements, ih]

theorem AlikeFields.convert_eq {fields others : Members} (h : AlikeFields vocabulary fields others)
    (type : String) (names : List String) :
    (do let found ← childrenIn fields names
        Skeleton.convert vocabulary ⟨type, found, []⟩ []) =
      (do let found ← childrenIn others names
          Skeleton.convert vocabulary ⟨type, found, []⟩ []) := by
  have hheld := h.held names
  rw [childrenIn_eq, childrenIn_eq, faults_of_alike hheld]
  cases ((names.filterMap others.get?).filterMap block?).findSome? bodyFault with
  | some fault => rfl
  | none =>
      show Skeleton.convert vocabulary ⟨type, _, []⟩ [] =
        Skeleton.convert vocabulary ⟨type, _, []⟩ []
      rw [Skeleton.convert_of_agrees fun child _ => Skeleton.agrees vocabulary child,
        Skeleton.convert_of_agrees fun child _ => Skeleton.agrees vocabulary child,
        mapM_statements_of_alike hheld]

theorem AlikeNode.toNode_eq {node other : RawNode} (h : AlikeNode vocabulary node other) :
    node.toNode vocabulary = other.toNode vocabulary := by
  rw [toNode, toNode, children, children, h.type_eq]
  exact h.fields.convert_eq _ _

theorem AlikeNode.conversion_eq {node other : RawNode} (h : AlikeNode vocabulary node other) :
    node.conversion vocabulary = other.conversion vocabulary := by
  rw [← toNode_eq_conversion, ← toNode_eq_conversion]
  exact h.toNode_eq

/-! ## Alike nodes stand for alike values -/

theorem ofValue?_object (members : Members) :
    ofValue? (.object members) =
      ((members.get? "type").bind Value.string?).map fun type => ⟨type, members⟩ := by
  rw [ofValue?]
  cases members.get? "type" with
  | none => rfl
  | some type => cases type <;> rfl

/-- The bodies of alike blocks: the same fault, if any, and otherwise the same statements. -/
theorem AlikeNode.body {node other : RawNode} (h : AlikeNode vocabulary node other) :
    node.bodyFault = other.bodyFault ∧
      (nodeItems (node.fields.get? "body")).mapM (conversion vocabulary) =
        (nodeItems (other.fields.get? "body")).mapM (conversion vocabulary) := by
  rw [bodyFault_eq, bodyFault_eq]
  rcases h.fields "body" with ⟨hnone, hnone'⟩ | ⟨value, other, hvalue, hother, halike⟩
  · rw [hnone, hnone']
    exact ⟨rfl, rfl⟩
  · rw [hvalue, hother]
    exact ⟨by simp only [halike.listed], halike.items⟩

theorem alike_of_alikeNode {members others : Members} {node other : RawNode}
    (hnode : ofValue? (.object members) = some node)
    (hother : ofValue? (.object others) = some other) (h : AlikeNode vocabulary node other) :
    Alike vocabulary (.object members) (.object others) := by
  obtain ⟨hfault, hitems⟩ := h.body
  refine ⟨?_, ?_, rfl, rfl⟩
  · by_cases htype : other.type = blockType
    · simp [block?, hnode, hother, Option.filter_some, h.type_eq, htype, hfault]
    · simp [block?, hnode, hother, Option.filter_some, h.type_eq, htype]
  · by_cases htype : other.type = blockType
    · simp only [statementsOf, hnode, hother, h.type_eq, htype, if_true, hitems]
    · simp only [statementsOf, hnode, hother, h.type_eq, htype, if_false, List.mapM_cons,
        List.mapM_nil, h.conversion_eq]

theorem alike_of_eq_none {members others : Members} (hnode : ofValue? (.object members) = none)
    (hother : ofValue? (.object others) = none) :
    Alike vocabulary (.object members) (.object others) := by
  refine ⟨?_, ?_, rfl, rfl⟩
  · rw [block?, block?, hnode, hother]
  · simp only [statementsOf, hnode, hother, nodeItems]

theorem alike_inBraces {statement : Value} {node : RawNode}
    (hnode : ofValue? statement = some node) (hblock : node.type ≠ blockType) :
    Alike vocabulary statement statement.inBraces := by
  cases statement with
  | object members =>
      refine ⟨?_, ?_, rfl, rfl⟩
      · have hbraces : (block? (Value.object members).inBraces).bind bodyFault = none := rfl
        rw [hbraces, block?, hnode, Option.filter_some, if_neg (by simpa using hblock)]
        rfl
      · have hbraces : statementsOf (Value.object members).inBraces =
            [Value.object members].filterMap ofValue? := rfl
        rw [hbraces, List.filterMap_cons_some hnode, statementsOf, hnode]
        simp only [if_neg hblock, List.filterMap_nil]
  | _ => cases hnode

/-! ## Braces inside a value -/

/-- The two values stand for alike nodes, or neither stands for a node. -/
def AlikeItem (vocabulary : Vocabulary) (value other : Value) : Prop :=
  ofValue? value = none ∧ ofValue? other = none ∨
    ∃ node node', ofValue? value = some node ∧ ofValue? other = some node' ∧
      AlikeNode vocabulary node node'

/-- Nothing tells two values apart: not as what a node holds, not as items of a list, and not as
the roots of syntax trees. -/
structure AlikeEverywhere (vocabulary : Vocabulary) (value other : Value) : Prop where
  held : Alike vocabulary value other
  item : AlikeItem vocabulary value other
  root : Skeleton.ofValue vocabulary value = Skeleton.ofValue vocabulary other

theorem alike_array {value other : Value} (h : AlikeItem vocabulary value other)
    (before after : List Value) :
    AlikeEverywhere vocabulary (.array (before ++ value :: after))
      (.array (before ++ other :: after)) := by
  have hitems : ((before ++ value :: after).filterMap ofValue?).mapM (conversion vocabulary) =
      ((before ++ other :: after).filterMap ofValue?).mapM (conversion vocabulary) := by
    simp only [List.filterMap_append, List.mapM_append]
    rcases h with ⟨hnone, hnone'⟩ | ⟨node, node', hnode, hnode', halike⟩
    · rw [List.filterMap_cons_none hnone, List.filterMap_cons_none hnone']
    · rw [List.filterMap_cons_some hnode, List.filterMap_cons_some hnode', List.mapM_cons,
        List.mapM_cons, halike.conversion_eq]
  exact ⟨⟨rfl, hitems, hitems, rfl⟩, Or.inl ⟨rfl, rfl⟩, rfl⟩

/-- Roots with alike fields and the same member for the type have the same skeleton. -/
theorem AlikeFields.ofValue_eq {members others : Members}
    (h : AlikeFields vocabulary members others)
    (htype : members.get? "type" = others.get? "type") :
    Skeleton.ofValue vocabulary (.object members) =
      Skeleton.ofValue vocabulary (.object others) := by
  rw [Skeleton.ofValue, Skeleton.ofValue, htype]
  cases others.get? "type" with
  | none => rfl
  | some type =>
      cases type with
      | string type =>
          have hnode : AlikeNode vocabulary ⟨type, members⟩ ⟨type, others⟩ := ⟨rfl, h⟩
          simp only [hnode.toNode_eq]
      | array items => rfl
      | object inner => rfl
      | _ => simp only [← bind_assoc, h.convert_eq]

/-- Nothing tells objects apart that have alike fields and the same member for the type. -/
theorem alike_object {members others : Members} (h : AlikeFields vocabulary members others)
    (htype : members.get? "type" = others.get? "type") :
    AlikeEverywhere vocabulary (.object members) (.object others) := by
  have hroot := h.ofValue_eq htype
  have hmembers := ofValue?_object members
  have hothers := ofValue?_object others
  rw [htype] at hmembers
  cases htext : (others.get? "type").bind Value.string? with
  | none =>
      rw [htext] at hmembers hothers
      exact ⟨alike_of_eq_none hmembers hothers, Or.inl ⟨hmembers, hothers⟩, hroot⟩
  | some type =>
      rw [htext] at hmembers hothers
      have halike : AlikeNode vocabulary ⟨type, members⟩ ⟨type, others⟩ := ⟨rfl, h⟩
      exact ⟨alike_of_alikeNode hmembers hothers halike,
        Or.inr ⟨_, _, hmembers, hothers, halike⟩, hroot⟩

theorem alike_unusable {members others : Members} {type type' : Value}
    (htype : members.get? "type" = some type) (htype' : others.get? "type" = some type')
    (h : Skeleton.isUsableType type = false) (h' : Skeleton.isUsableType type' = false) :
    AlikeEverywhere vocabulary (.object members) (.object others) := by
  have hunusable : ∀ {fields : Members} {found : Value}, fields.get? "type" = some found →
      Skeleton.isUsableType found = false → ofValue? (.object fields) = none ∧
        Skeleton.ofValue vocabulary (.object fields) = .error .unusableType := by
    intro fields found hfound hunusable
    rw [ofValue?, Skeleton.ofValue, hfound]
    cases found with
    | array items => exact ⟨rfl, rfl⟩
    | object inner => exact ⟨rfl, rfl⟩
    | _ => cases hunusable
  obtain ⟨hnone, hroot⟩ := hunusable htype h
  obtain ⟨hnone', hroot'⟩ := hunusable htype' h'
  exact ⟨alike_of_eq_none hnone hnone', Or.inl ⟨hnone, hnone'⟩, hroot.trans hroot'.symm⟩

/-- A value put in place of another under one key shows at most under that key. -/
theorem get?_replaced (before after : Members) (key : String) (value other : Value)
    (name : String) :
    Members.get? (before ++ (key, value) :: after) name =
        Members.get? (before ++ (key, other) :: after) name ∨
      name = key ∧ Members.get? (before ++ (key, value) :: after) name = some value ∧
        Members.get? (before ++ (key, other) :: after) name = some other := by
  simp only [Members.get?, List.lookup_append, List.lookup_cons]
  cases before.lookup name with
  | some found => exact Or.inl rfl
  | none =>
      by_cases hname : name = key
      · subst hname
        exact Or.inr ⟨rfl, by simp, by simp⟩
      · have hne : (name == key) = false := beq_false_of_ne hname
        simp only [hne]
        exact Or.inl trivial

theorem alikeFields_replaced {value other : Value} (h : Alike vocabulary value other)
    (before after : Members) (key : String) :
    AlikeFields vocabulary (before ++ (key, value) :: after) (before ++ (key, other) :: after) := by
  intro name
  rcases get?_replaced before after key value other name with heq | ⟨-, hvalue, hother⟩
  · rw [heq]
    cases Members.get? (before ++ (key, other) :: after) name with
    | none => exact Or.inl ⟨rfl, rfl⟩
    | some found => exact Or.inr ⟨found, found, rfl, rfl, .refl found⟩
  · exact Or.inr ⟨value, other, hvalue, hother, h⟩

/-- Braces are put inside lists and objects, and neither can be looked up as a type. -/
theorem isUsableType_of_braced {value braced : Value} (h : value.Braced braced) :
    Skeleton.isUsableType value = false ∧ Skeleton.isUsableType braced = false := by
  cases h with
  | field => exact ⟨rfl, rfl⟩
  | member => exact ⟨rfl, rfl⟩
  | item => exact ⟨rfl, rfl⟩

theorem alike_of_braced {value braced : Value} (h : value.Braced braced) :
    AlikeEverywhere vocabulary value braced := by
  induction h with
  | @field before after key statement node key_ne is_node not_block =>
      have hfields : AlikeFields vocabulary (before ++ (key, statement) :: after)
          (before ++ (key, statement.inBraces) :: after) :=
        alikeFields_replaced (alike_inBraces is_node not_block) before after key
      refine alike_object hfields ?_
      rcases get?_replaced before after key statement statement.inBraces "type" with heq | ⟨heq, -⟩
      · exact heq
      · exact absurd heq.symm key_ne
  | @member before after key value braced inside ih =>
      have hfields := alikeFields_replaced ih.held before after key
      rcases get?_replaced before after key value braced "type" with heq | ⟨-, hvalue, hbraced⟩
      · exact alike_object hfields heq
      · -- The braces are inside what stands for the type, so neither object is a node.
        obtain ⟨hunusable, hunusable'⟩ := isUsableType_of_braced inside
        exact alike_unusable hvalue hbraced hunusable hunusable'
  | item before after inside ih => exact alike_array ih.item before after

end RawNode

/-- Braces around a single statement that a field holds, anywhere in a syntax tree, change neither
the skeleton of the tree nor the fault it has instead, and so no report either. -/
theorem Skeleton.ofValue_eq_of_braced (vocabulary : Vocabulary) {raw braced : Value}
    (h : raw.Braced braced) :
    Skeleton.ofValue vocabulary braced = Skeleton.ofValue vocabulary raw ∧
    ∀ root, RawNode.ofValue? raw = some root →
      ∃ bracedRoot, RawNode.ofValue? braced = some bracedRoot ∧
        bracedRoot.toNode vocabulary = root.toNode vocabulary ∧
        ∀ set depth, (bracedRoot.toNode vocabulary).map (Grading.tree set depth) =
          (root.toNode vocabulary).map (Grading.tree set depth) := by
  have halike : RawNode.AlikeEverywhere vocabulary raw braced := RawNode.alike_of_braced h
  refine ⟨halike.root.symm, fun root hroot => ?_⟩
  rcases halike.item with ⟨hnone, -⟩ | ⟨node, bracedRoot, hnode, hbraced, hsame⟩
  · rw [hnone] at hroot
    cases hroot
  · rw [hnode] at hroot
    cases hroot
    have htree := hsame.toNode_eq.symm
    exact ⟨bracedRoot, hbraced, htree, fun set depth => by rw [htree]⟩

/-- The body of a loop inside a program is put in braces. -/
theorem Skeleton.ofValue_loop_eq_of_braced :
    (Value.object [("type", .string "Program"), ("body", .array [.object [
        ("type", .string "WhileStatement"),
        ("body", .object [("type", .string "ReturnStatement")])]])]).Braced
      (.object [("type", .string "Program"), ("body", .array [.object [
        ("type", .string "WhileStatement"),
        ("body", .object [("type", .string "BlockStatement"),
          ("body", .array [.object [("type", .string "ReturnStatement")]])])]])]) ∧
    Skeleton.ofValue .standard (.object [("type", .string "Program"), ("body", .array [.object [
        ("type", .string "WhileStatement"),
        ("body", .object [("type", .string "BlockStatement"),
          ("body", .array [.object [("type", .string "ReturnStatement")]])])]])]) =
      Skeleton.ofValue .standard (.object [("type", .string "Program"), ("body", .array [.object [
        ("type", .string "WhileStatement"),
        ("body", .object [("type", .string "ReturnStatement")])]])]) := by
  have hloop : (Value.object [("type", .string "WhileStatement"),
      ("body", .object [("type", .string "ReturnStatement")])]).Braced
        (.object [("type", .string "WhileStatement"),
          ("body", .object [("type", .string "BlockStatement"),
            ("body", .array [.object [("type", .string "ReturnStatement")]])])]) :=
    .field [("type", .string "WhileStatement")] [] (by decide)
      (RawNode.ofValue?_object [("type", .string "ReturnStatement")]) (by decide)
  have hprogram := Value.Braced.member [("type", .string "Program")] [] "body" (.item [] [] hloop)
  exact ⟨hprogram, (Skeleton.ofValue_eq_of_braced .standard hprogram).1⟩

end Rubric
