import Rubric.Skeleton

/-!
# Skeletons by recursion

The conversion of a syntax tree with frames, against a conversion that says the rule directly:
`RawNode.conversion` lists the statements nested directly inside a node, converts them from left
to right and puts the results under the type of the node. It keeps no frames.

The statements of a node come from the values that its body fields hold. A list contributes its
nodes, a block the nodes of its body, any other node itself, and what is no node contributes
nothing. A block without a body, or with a body that cannot be gone through, makes the conversion
fail. `faultOf_conversion` says which failure it is: that of the first such block, with the
nodes taken in pre-order and the blocks of each node in the order of its fields.
-/

namespace Rubric

namespace RawNode

/-! ## The statements of a node -/

/-- The values that the body fields of a node hold, in the order of the fields. -/
def held (vocabulary : Vocabulary) (raw : RawNode) : List Value :=
  (vocabulary.bodyFields raw.type).filterMap raw.fields.get?

/-- The nodes of a list, in order; none if the value is no list. -/
def nodeItems : Option Value → List RawNode
  | some (.array items) => items.filterMap ofValue?
  | _ => []

def statementsOf (value : Value) : List RawNode :=
  match ofValue? value with
  | none => nodeItems (some value)
  | some node => if node.type = blockType then nodeItems (node.fields.get? "body") else [node]

def block? (value : Value) : Option RawNode :=
  (ofValue? value).filter fun node => node.type = blockType

/-- Why the statements of a block cannot be listed: it has no body, or one that is neither a list
nor a text. -/
def bodyFault (block : RawNode) : Option RawFault :=
  match block.fields.get? "body" with
  | none => some .missingBody
  | some (.array _) => none
  | some (.string _) => none
  | some _ => some .bodyNotAList

def statements (vocabulary : Vocabulary) (raw : RawNode) : List RawNode :=
  (raw.held vocabulary).flatMap statementsOf

/-- The blocks that the body fields of a node hold, in order. -/
def heldBlocks (vocabulary : Vocabulary) (raw : RawNode) : List RawNode :=
  (raw.held vocabulary).filterMap block?

theorem sizeOf_fields_lt_of_mem_nodeItems {value : Value} {child : RawNode}
    (h : child ∈ nodeItems (some value)) : sizeOf child.fields < sizeOf value := by
  cases value with
  | array items =>
      have := sizeOf_fields_lt_of_mem_items h
      rw [Value.array.sizeOf_spec]
      omega
  | _ => cases h

theorem sizeOf_fields_lt_of_mem_statementsOf {value : Value} {child : RawNode}
    (h : child ∈ statementsOf value) : sizeOf child.fields < sizeOf value := by
  unfold statementsOf at h
  split at h
  · exact sizeOf_fields_lt_of_mem_nodeItems h
  · rename_i node hnode
    have hfields := sizeOf_fields_lt_of_ofValue? hnode
    split at h
    · cases hbody : node.fields.get? "body" with
      | none =>
          rw [hbody] at h
          cases h
      | some body =>
          rw [hbody] at h
          have := Members.sizeOf_get?_lt hbody
          have := sizeOf_fields_lt_of_mem_nodeItems h
          omega
    · cases List.mem_singleton.mp h
      exact hfields

theorem sizeOf_fields_lt_of_mem_statements {vocabulary : Vocabulary} {raw child : RawNode}
    (h : child ∈ raw.statements vocabulary) : sizeOf child.fields < sizeOf raw.fields := by
  obtain ⟨value, hvalue, hchild⟩ := List.mem_flatMap.mp h
  obtain ⟨name, -, hget⟩ := List.mem_filterMap.mp hvalue
  have := Members.sizeOf_get?_lt hget
  have := sizeOf_fields_lt_of_mem_statementsOf hchild
  omega

/-! ## The recursion -/

/-- The skeleton of a node by recursion: list its statements, which fails at the first held block
that has none to list, and convert them from left to right. -/
def conversion (vocabulary : Vocabulary) (raw : RawNode) : Except RawFault Node :=
  match (raw.heldBlocks vocabulary).findSome? bodyFault with
  | some fault => .error fault
  | none => do
    let converted ← (raw.statements vocabulary).attach.mapM fun child =>
      conversion vocabulary child.1
    return .node raw.type converted
termination_by sizeOf raw.fields
decreasing_by exact sizeOf_fields_lt_of_mem_statements child.2

/-- The nodes that the recursion comes to, each before its statements. A block that has no
statements to list is passed over. -/
def visits (vocabulary : Vocabulary) (raw : RawNode) : List RawNode :=
  raw :: (raw.statements vocabulary).attach.flatMap fun child => visits vocabulary child.1
termination_by sizeOf raw.fields
decreasing_by exact sizeOf_fields_lt_of_mem_statements child.2

/-- The blocks held by the nodes that the recursion comes to, in the order in which it meets
them. -/
def blocksMet (vocabulary : Vocabulary) (raw : RawNode) : List RawNode :=
  (raw.visits vocabulary).flatMap (heldBlocks vocabulary)

theorem conversion_eq (vocabulary : Vocabulary) (raw : RawNode) :
    raw.conversion vocabulary =
      match (raw.heldBlocks vocabulary).findSome? bodyFault with
      | some fault => .error fault
      | none => do
        let converted ← (raw.statements vocabulary).mapM (conversion vocabulary)
        return .node raw.type converted := by
  rw [conversion]
  split
  · rfl
  · rw [List.mapM_subtype (fun _ _ => rfl), List.unattach_attach]

theorem blocksMet_eq (vocabulary : Vocabulary) (raw : RawNode) :
    raw.blocksMet vocabulary = raw.heldBlocks vocabulary ++
      (raw.statements vocabulary).flatMap (blocksMet vocabulary) := by
  rw [blocksMet, visits, List.flatMap_cons, List.flatMap_subtype (fun _ _ => rfl),
    List.unattach_attach, List.flatMap_assoc]
  rfl

/-! ## Which failure it is -/

/-- The fault with which a result fails, if it does. -/
def faultOf {α : Type} : Except RawFault α → Option RawFault
  | .error fault => some fault
  | .ok _ => none

theorem faultOf_eq_some_iff {α : Type} {result : Except RawFault α} {fault : RawFault} :
    faultOf result = some fault ↔ result = .error fault := by
  cases result with
  | error other =>
      rw [faultOf, Option.some.injEq, Except.error.injEq]
  | ok value =>
      constructor
      · intro h
        cases h
      · intro h
        cases h

theorem faultOf_map {α β : Type} (f : α → β) (result : Except RawFault α) :
    faultOf (result.map f) = faultOf result := by
  cases result with
  | error fault => rfl
  | ok value => rfl

/-- Of several nodes the first that fails decides, as the first faulty block among theirs does. -/
theorem faultOf_mapM {convert : RawNode → Except RawFault Node}
    {blocks : RawNode → List RawNode} {found : List RawNode}
    (h : ∀ child ∈ found, faultOf (convert child) = (blocks child).findSome? bodyFault) :
    faultOf (found.mapM convert) = (found.flatMap blocks).findSome? bodyFault := by
  induction found with
  | nil => rfl
  | cons child found ih =>
      rw [List.mapM_cons, List.flatMap_cons, List.findSome?_append, ← h child List.mem_cons_self,
        ← ih fun other hother => h other (List.mem_cons_of_mem _ hother)]
      cases convert child with
      | error fault => rfl
      | ok node =>
          cases found.mapM convert with
          | error fault => rfl
          | ok nodes => rfl

/-- The recursion fails with the fault of the first block it meets that has one. -/
theorem faultOf_conversion (vocabulary : Vocabulary) (raw : RawNode) :
    faultOf (raw.conversion vocabulary) = (raw.blocksMet vocabulary).findSome? bodyFault := by
  have hchildren : ∀ child ∈ raw.statements vocabulary,
      faultOf (child.conversion vocabulary) =
        (child.blocksMet vocabulary).findSome? bodyFault := by
    intro child hchild
    have hlt := sizeOf_fields_lt_of_mem_statements hchild
    exact faultOf_conversion vocabulary child
  -- The blocks of the node itself come first; only if all are sound do those below it count.
  rw [conversion_eq, blocksMet_eq, List.findSome?_append, ← faultOf_mapM hchildren]
  cases (raw.heldBlocks vocabulary).findSome? bodyFault with
  | some fault => rfl
  | none =>
      cases (raw.statements vocabulary).mapM (conversion vocabulary) with
      | error fault => rfl
      | ok nodes => rfl
termination_by sizeOf raw.fields

/-! ## The statements are those that the frames are filled with -/

theorem blockBody_eq (block : RawNode) :
    block.blockBody =
      match block.bodyFault with
      | some fault => .error fault
      | none => .ok (nodeItems (block.fields.get? "body")) := by
  rw [blockBody, bodyFault]
  cases block.fields.get? "body" with
  | none => rfl
  | some body =>
      cases body with
      | _ => rfl

theorem fieldChildren_some (value : Value) :
    fieldChildren (some value) =
      match (block? value).bind bodyFault with
      | some fault => .error fault
      | none => .ok (statementsOf value) := by
  cases hnode : ofValue? value with
  | none =>
      rw [block?, statementsOf, hnode]
      cases value with
      | object members => simp [fieldChildren, hnode, nodeItems]
      | _ => rfl
  | some node =>
      have hfield : fieldChildren (some value) =
          if node.type == blockType then node.blockBody else .ok [node] := by
        cases value with
        | object members => simp only [fieldChildren, hnode]
        | _ => cases hnode
      rw [hfield, block?, statementsOf, hnode]
      by_cases htype : node.type = blockType
      · simp [Option.filter_some, htype, blockBody_eq]
      · simp [Option.filter_some, htype]

theorem findSome?_blocks_cons (value : Value) (values : List Value) :
    ((value :: values).filterMap block?).findSome? bodyFault =
      ((block? value).bind bodyFault).or ((values.filterMap block?).findSome? bodyFault) := by
  cases hblock : block? value with
  | none => rw [List.filterMap_cons_none hblock, Option.bind_none, Option.none_or]
  | some block =>
      rw [List.filterMap_cons_some hblock, List.findSome?_cons, Option.bind_some]
      cases block.bodyFault with
      | none => rfl
      | some fault => rfl

theorem childrenIn_eq (fields : Members) (names : List String) :
    childrenIn fields names =
      match ((names.filterMap fields.get?).filterMap block?).findSome? bodyFault with
      | some fault => .error fault
      | none => .ok ((names.filterMap fields.get?).flatMap statementsOf) := by
  induction names with
  | nil => rfl
  | cons name names ih =>
      rw [childrenIn, ih]
      cases hget : fields.get? name with
      | none =>
          rw [List.filterMap_cons_none hget, fieldChildren]
          cases ((names.filterMap fields.get?).filterMap block?).findSome? bodyFault with
          | none => rfl
          | some fault => rfl
      | some value =>
          rw [fieldChildren_some, List.filterMap_cons_some hget, findSome?_blocks_cons,
            List.flatMap_cons]
          cases (block? value).bind bodyFault with
          | some fault => rfl
          | none =>
              cases ((names.filterMap fields.get?).filterMap block?).findSome? bodyFault with
              | none => rfl
              | some fault => rfl

theorem children_eq (vocabulary : Vocabulary) (raw : RawNode) :
    raw.children vocabulary =
      match (raw.heldBlocks vocabulary).findSome? bodyFault with
      | some fault => .error fault
      | none => .ok (raw.statements vocabulary) :=
  childrenIn_eq raw.fields (vocabulary.bodyFields raw.type)

end RawNode

/-! ## The frames -/

namespace Skeleton

theorem convert_cons (vocabulary : Vocabulary) (type : String) (child : RawNode)
    (waiting : List RawNode) (done : List Node) (outer : List Frame) :
    convert vocabulary ⟨type, child :: waiting, done⟩ outer = (do
      let found ← child.children vocabulary
      convert vocabulary ⟨child.type, found, []⟩ (⟨type, waiting, done⟩ :: outer)) := by
  rw [convert]
  dsimp only
  split
  · rename_i fault hfault
    rw [hfault]
    rfl
  · rename_i found hfound
    rw [hfound]
    rfl

theorem convert_nil_cons (vocabulary : Vocabulary) (type : String) (done : List Node)
    (parent : Frame) (outer : List Frame) :
    convert vocabulary ⟨type, [], done⟩ (parent :: outer) =
      convert vocabulary ⟨parent.type, parent.waiting, .node type done.reverse :: parent.done⟩
        outer := by
  rw [convert]

theorem convert_nil_nil (vocabulary : Vocabulary) (type : String) (done : List Node) :
    convert vocabulary ⟨type, [], done⟩ [] = .ok (.node type done.reverse) := by
  rw [convert]

/-- The frames convert a waiting child as the recursion does, whatever stands around it: on
success it is added to what is done, and a failure is the failure of the whole. -/
def Agrees (vocabulary : Vocabulary) (child : RawNode) : Prop :=
  ∀ type waiting done outer,
    convert vocabulary ⟨type, child :: waiting, done⟩ outer = (do
      let node ← child.conversion vocabulary
      convert vocabulary ⟨type, waiting, node :: done⟩ outer)

/-- If the frames agree with the recursion on each of the children, they agree on all of them. -/
theorem convert_of_agrees {vocabulary : Vocabulary} {found : List RawNode}
    (h : ∀ child ∈ found, Agrees vocabulary child) (type : String) (done : List Node)
    (outer : List Frame) :
    convert vocabulary ⟨type, found, done⟩ outer = (do
      let nodes ← found.mapM (RawNode.conversion vocabulary)
      convert vocabulary ⟨type, [], nodes.reverse ++ done⟩ outer) := by
  induction found generalizing done with
  | nil => rfl
  | cons child found ih =>
      rw [h child List.mem_cons_self, List.mapM_cons]
      cases child.conversion vocabulary with
      | error fault => rfl
      | ok node =>
          -- The child is done and lies on top of those before it.
          show convert vocabulary ⟨type, found, node :: done⟩ outer = _
          rw [ih (fun other hother => h other (List.mem_cons_of_mem _ hother)) (node :: done)]
          cases found.mapM (RawNode.conversion vocabulary) with
          | error fault => rfl
          | ok nodes =>
              show convert vocabulary ⟨type, [], nodes.reverse ++ node :: done⟩ outer =
                convert vocabulary ⟨type, [], (node :: nodes).reverse ++ done⟩ outer
              rw [List.reverse_cons, List.append_assoc]
              rfl

/-- The frames agree with the recursion on every node. The induction is on the size of the node:
its statements are smaller, and the frame opened for them is left again once they are done. -/
theorem agrees (vocabulary : Vocabulary) (child : RawNode) : Agrees vocabulary child := by
  intro type waiting done outer
  have hstatements : ∀ other ∈ child.statements vocabulary, Agrees vocabulary other := by
    intro other hother
    have hlt := RawNode.sizeOf_fields_lt_of_mem_statements hother
    exact agrees vocabulary other
  -- Both sides list the statements of the child first, and fail at the same block if they fail.
  rw [convert_cons, RawNode.children_eq, RawNode.conversion_eq]
  cases (child.heldBlocks vocabulary).findSome? RawNode.bodyFault with
  | some fault => rfl
  | none =>
      show convert vocabulary ⟨child.type, child.statements vocabulary, []⟩
        (⟨type, waiting, done⟩ :: outer) = _
      rw [convert_of_agrees hstatements]
      cases (child.statements vocabulary).mapM (RawNode.conversion vocabulary) with
      | error fault => rfl
      | ok nodes =>
          show convert vocabulary ⟨child.type, [], nodes.reverse ++ []⟩
            (⟨type, waiting, done⟩ :: outer) =
              convert vocabulary ⟨type, waiting, .node child.type nodes :: done⟩ outer
          rw [convert_nil_cons, List.append_nil, List.reverse_reverse]
termination_by sizeOf child.fields

end Skeleton

theorem RawNode.toNode_eq_conversion (vocabulary : Vocabulary) (raw : RawNode) :
    raw.toNode vocabulary = raw.conversion vocabulary := by
  rw [toNode, children_eq, conversion_eq]
  cases (raw.heldBlocks vocabulary).findSome? bodyFault with
  | some fault => rfl
  | none =>
      show Skeleton.convert vocabulary ⟨raw.type, raw.statements vocabulary, []⟩ [] = _
      rw [Skeleton.convert_of_agrees fun child _ => Skeleton.agrees vocabulary child]
      cases (raw.statements vocabulary).mapM (conversion vocabulary) with
      | error fault => rfl
      | ok nodes =>
          show Skeleton.convert vocabulary ⟨raw.type, [], nodes.reverse ++ []⟩ [] =
            .ok (.node raw.type nodes)
          rw [Skeleton.convert_nil_nil, List.append_nil, List.reverse_reverse]

theorem RawNode.type_of_conversion_eq_ok {vocabulary : Vocabulary} {raw : RawNode} {node : Node}
    (h : raw.conversion vocabulary = .ok node) : node.type = raw.type := by
  rw [conversion_eq] at h
  split at h
  · cases h
  · cases hnodes : (raw.statements vocabulary).mapM (conversion vocabulary) with
    | error fault =>
        rw [hnodes] at h
        cases h
    | ok nodes =>
        rw [hnodes] at h
        cases h
        rfl

theorem Skeleton.ofValue_eq_toNode (vocabulary : Vocabulary) {raw : Value} {root : RawNode}
    (h : RawNode.ofValue? raw = some root) :
    Skeleton.ofValue vocabulary raw =
      (root.toNode vocabulary).map fun node => ⟨.string root.type, node.children⟩ := by
  cases raw with
  | object members =>
      simp only [RawNode.ofValue?] at h
      split at h
      · rename_i type htype
        cases h
        simp only [Skeleton.ofValue, htype]
        rfl
      · cases h
  | _ => cases h

/-- The skeleton of a syntax tree whose root has a string for its type is what the recursion makes
of the root. It fails exactly if the recursion meets a block held by a field that has no body or one
that cannot be gone through, and then with the fault of the first such block in pre-order. -/
theorem Skeleton.ofValue_eq_conversion (vocabulary : Vocabulary) {raw : Value} {root : RawNode}
    (h : RawNode.ofValue? raw = some root) :
    root.toNode vocabulary = root.conversion vocabulary ∧
      Skeleton.ofValue vocabulary raw =
        (root.conversion vocabulary).map (fun node => ⟨.string node.type, node.children⟩) ∧
      ∀ fault, Skeleton.ofValue vocabulary raw = .error fault ↔
        (root.blocksMet vocabulary).findSome? RawNode.bodyFault = some fault := by
  have hnode := RawNode.toNode_eq_conversion vocabulary root
  have hskeleton := Skeleton.ofValue_eq_toNode vocabulary h
  rw [hnode] at hskeleton
  refine ⟨hnode, ?_, fun fault => ?_⟩
  · rw [hskeleton]
    cases hconversion : root.conversion vocabulary with
    | error fault => rfl
    | ok node =>
        show Except.ok (Skeleton.mk (.string root.type) node.children) =
          Except.ok (Skeleton.mk (.string node.type) node.children)
        rw [RawNode.type_of_conversion_eq_ok hconversion]
  · rw [← RawNode.faultOf_eq_some_iff, hskeleton, RawNode.faultOf_map, RawNode.faultOf_conversion]

/-- A branch is looked at whole before what lies below it: the body of its alternative, which is no
list, decides, and not the block without a body further down in its consequent. -/
theorem Skeleton.ofValue_branch_eq_error :
    RawNode.ofValue? (.object [("type", .string "IfStatement"),
        ("consequent", .object [("type", .string "WhileStatement"),
          ("body", .object [("type", .string "BlockStatement")])]),
        ("alternate", .object [("type", .string "BlockStatement"), ("body", .int 3)])]) =
      some ⟨"IfStatement", [("type", .string "IfStatement"),
        ("consequent", .object [("type", .string "WhileStatement"),
          ("body", .object [("type", .string "BlockStatement")])]),
        ("alternate", .object [("type", .string "BlockStatement"), ("body", .int 3)])]⟩ ∧
    Skeleton.ofValue .standard (.object [("type", .string "IfStatement"),
        ("consequent", .object [("type", .string "WhileStatement"),
          ("body", .object [("type", .string "BlockStatement")])]),
        ("alternate", .object [("type", .string "BlockStatement"), ("body", .int 3)])]) =
      .error .bodyNotAList := by
  refine ⟨rfl, ((Skeleton.ofValue_eq_conversion .standard rfl).2.2 _).mpr ?_⟩
  rw [RawNode.blocksMet_eq]
  rfl

end Rubric
