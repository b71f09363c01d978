import Rubric.Node
import Rubric.Value
import Rubric.Vocabulary

/-!
# Statement skeletons

A syntax tree comes as a value: an object with a string `type` is a node, and its other members are
its fields. The skeleton of such a tree keeps the nodes that a vocabulary names as nested
statements. A block held directly by a field is transparent: its statements take its place. A block
that stands in a list is kept.

The conversion keeps one frame per node under way, with the children still to convert and those that
are done, so it needs no more stack for a deep tree than for a flat one.
-/

namespace Rubric

/-- A node of a syntax tree. -/
structure RawNode where
  type : String
  fields : Members

inductive RawFault where
  | missingType
  | unusableType  -- it cannot be looked up
  | missingBody
  | bodyNotAList
deriving DecidableEq

namespace RawNode

/-- The node a value stands for, if it is one. -/
def ofValue? : Value → Option RawNode
  | .object members =>
    match Members.get? members "type" with
    | some (.string type) => some ⟨type, members⟩
    | _ => none
  | _ => none

def blockType : String := "BlockStatement"

def blockBody (block : RawNode) : Except RawFault (List RawNode) :=
  match block.fields.get? "body" with
  | some (.array items) => .ok (items.filterMap ofValue?)
  | some (.string _) => .ok []
  | some _ => .error .bodyNotAList
  | none => .error .missingBody

def fieldChildren : Option Value → Except RawFault (List RawNode)
  | some (.array items) => .ok (items.filterMap ofValue?)
  | some value =>
    match ofValue? value with
    | some child => if child.type == blockType then child.blockBody else .ok [child]
    | none => .ok []
  | none => .ok []

/-- The statements that the named fields contribute, in the order of the names. -/
def childrenIn (fields : Members) : List String → Except RawFault (List RawNode)
  | [] => .ok []
  | name :: names =>
    match fieldChildren (fields.get? name) with
    | .error fault => .error fault
    | .ok children =>
      match childrenIn fields names with
      | .error fault => .error fault
      | .ok rest => .ok (children ++ rest)

/-- The statements nested directly inside a node. -/
def children (vocabulary : Vocabulary) (raw : RawNode) : Except RawFault (List RawNode) :=
  childrenIn raw.fields (vocabulary.bodyFields raw.type)

theorem sizeOf_fields_lt_of_ofValue? {value : Value} {raw : RawNode}
    (h : ofValue? value = some raw) : sizeOf raw.fields < sizeOf value := by
  cases value with
  | object members =>
    simp only [ofValue?] at h
    split at h
    · cases h
      simp
    · cases h
  | _ => simp [ofValue?] at h

theorem sizeOf_fields_lt_of_mem_items {items : List Value} {raw : RawNode}
    (h : raw ∈ items.filterMap ofValue?) : sizeOf raw.fields < sizeOf items := by
  obtain ⟨value, hvalue, hraw⟩ := List.mem_filterMap.1 h
  have := sizeOf_fields_lt_of_ofValue? hraw
  have := List.sizeOf_lt_of_mem hvalue
  omega

theorem sizeOf_fields_lt_of_mem_blockBody {block raw : RawNode} {body : List RawNode}
    (h : block.blockBody = .ok body) (hraw : raw ∈ body) :
    sizeOf raw.fields < sizeOf block.fields := by
  unfold blockBody at h
  split at h
  · rename_i items hitems
    cases h
    have := Members.sizeOf_get?_lt hitems
    have := sizeOf_fields_lt_of_mem_items hraw
    simp only [Value.array.sizeOf_spec] at *
    omega
  · cases h
    simp at hraw
  · cases h
  · cases h

theorem sizeOf_fields_lt_of_mem_fieldChildren {value : Value} {raw : RawNode}
    {found : List RawNode} (h : fieldChildren (some value) = .ok found) (hraw : raw ∈ found) :
    sizeOf raw.fields < sizeOf value := by
  unfold fieldChildren at h
  split at h
  · rename_i items heq
    cases h
    cases heq
    have := sizeOf_fields_lt_of_mem_items hraw
    simp only [Value.array.sizeOf_spec]
    omega
  · rename_i other _ heq
    cases heq
    split at h
    · rename_i child hchild
      have hlt := sizeOf_fields_lt_of_ofValue? hchild
      split at h
      · have := sizeOf_fields_lt_of_mem_blockBody h hraw
        omega
      · cases h
        simp only [List.mem_singleton] at hraw
        subst hraw
        exact hlt
    · cases h
      simp at hraw
  · cases h
    simp at hraw

theorem sizeOf_fields_lt_of_mem_childrenIn {fields : Members} {names : List String}
    {raw : RawNode} {found : List RawNode} (h : childrenIn fields names = .ok found)
    (hraw : raw ∈ found) : sizeOf raw.fields < sizeOf fields := by
  induction names generalizing found with
  | nil =>
    cases h
    simp at hraw
  | cons name names ih =>
    simp only [childrenIn] at h
    split at h
    · cases h
    · rename_i first hfirst
      split at h
      · cases h
      · rename_i rest hrest
        cases h
        rcases List.mem_append.1 hraw with hmem | hmem
        · cases hget : fields.get? name with
          | none =>
            rw [hget] at hfirst
            cases hfirst
            simp at hmem
          | some value =>
            rw [hget] at hfirst
            have := Members.sizeOf_get?_lt hget
            have := sizeOf_fields_lt_of_mem_fieldChildren hfirst hmem
            omega
        · exact ih hrest hmem

def total {α : Type} (measure : α → Nat) (list : List α) : Nat :=
  list.foldr (fun a sum => measure a + sum) 0

theorem total_attach {α : Type} (measure : α → Nat) (list : List α) :
    total (fun a => measure a.1) list.attach = total measure list :=
  List.foldr_attach (f := fun a sum => measure a + sum)

@[simp] theorem total_cons {α : Type} (measure : α → Nat) (a : α) (list : List α) :
    total measure (a :: list) = measure a + total measure list := rfl

/-- The number of nodes of a skeleton, as far as it can be built. -/
def cost (vocabulary : Vocabulary) (raw : RawNode) : Nat :=
  match h : raw.children vocabulary with
  | .error _ => 1
  | .ok found => 1 + total (fun child => cost vocabulary child.1) found.attach
termination_by sizeOf raw.fields
decreasing_by exact sizeOf_fields_lt_of_mem_childrenIn h child.2

theorem cost_eq {vocabulary : Vocabulary} {raw : RawNode} {found : List RawNode}
    (h : raw.children vocabulary = .ok found) :
    raw.cost vocabulary = 1 + total (cost vocabulary) found := by
  rw [cost]
  split
  · rename_i heq
    rw [h] at heq
    cases heq
  · rename_i other heq
    rw [h] at heq
    cases heq
    rw [total_attach]

end RawNode

namespace Skeleton

/-- A node whose children are being converted. -/
structure Frame where
  type : String
  waiting : List RawNode
  done : List Node  -- the latest first

def Frame.pending (vocabulary : Vocabulary) (frame : Frame) : Nat :=
  2 * RawNode.total (RawNode.cost vocabulary) frame.waiting + 1

/-- Converts what waits in the frame and in those around it, the innermost of which comes first. -/
def convert (vocabulary : Vocabulary) (frame : Frame) (outer : List Frame) :
    Except RawFault Node :=
  match _hw : frame.waiting with
  | child :: waiting =>
    match _hc : child.children vocabulary with
    | .error fault => .error fault
    | .ok found =>
      convert vocabulary ⟨child.type, found, []⟩ (⟨frame.type, waiting, frame.done⟩ :: outer)
  | [] =>
    -- All children are there, so the node goes to the frame around it.
    let node := Node.node frame.type frame.done.reverse
    match outer with
    | [] => .ok node
    | parent :: outer =>
      convert vocabulary ⟨parent.type, parent.waiting, node :: parent.done⟩ outer
termination_by frame.pending vocabulary + RawNode.total (Frame.pending vocabulary) outer
decreasing_by
  · simp only [Frame.pending, RawNode.total_cons, _hw, RawNode.cost_eq _hc]
    omega
  · simp only [Frame.pending, RawNode.total_cons, _hw]
    simp

end Skeleton

/-- A converted tree whose root keeps the value that stood for its type. -/
structure Skeleton where
  type : Value
  children : List Node

def RawNode.toNode (vocabulary : Vocabulary) (raw : RawNode) : Except RawFault Node := do
  let found ← raw.children vocabulary
  Skeleton.convert vocabulary ⟨raw.type, found, []⟩ []

namespace Skeleton

/-- Whether a value can be looked up among the types of a vocabulary. -/
def isUsableType : Value → Bool
  | .array _ => false
  | .object _ => false
  | _ => true

/-- The skeleton of a tree. A root whose type is no string has the fields of an unknown type. -/
def ofValue (vocabulary : Vocabulary) (raw : Value) : Except RawFault Skeleton :=
  match raw with
  | .object members =>
    match Members.get? members "type" with
    | none => .error .missingType
    | some (.string type) => do
      let node ← RawNode.toNode vocabulary ⟨type, members⟩
      return ⟨.string type, node.children⟩
    | some type =>
      if isUsableType type then do
        let found ← RawNode.childrenIn members Vocabulary.fallbackFields
        let node ← convert vocabulary ⟨"", found, []⟩ []
        return ⟨type, node.children⟩
      else .error .unusableType
  | _ => .error .missingType

end Skeleton

end Rubric
