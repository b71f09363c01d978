import Mathlib.Data.List.Chain
import Rubric.Proofs.Traversal

/-!
# The frames of a bounded walk

A bounded walk keeps one frame for each depth it is in. `Stacked` says how the frames lie upon each
other between two steps: from the outermost on their depths are one, two, three and so on, never
past the limit; the outermost holds the nodes that the walk started from, and every other one holds
the children of the node taken last from the frame around it. Of the siblings in a frame some are
taken and the others wait, and only both together are a list of children.

`stacked_after` states that this holds after any number of steps, however high the trees are, and
that the walk comes to its end after at most two steps for each node visited, and one more.
-/

namespace Rubric.Walk

/-- The walk after a number of steps, unless it has come to its end before. -/
def after (limit : Nat) : Nat → Walk → Option Walk
  | 0, walk => some walk
  | count + 1, walk => (walk.after limit count).bind (step limit)

/-- All siblings of a frame, in order. -/
def Frame.siblings (frame : Frame) : List Node :=
  frame.taken.reverse ++ frame.waiting

/-- A frame holds the children of the node taken last from the frame around it. -/
def Frame.Inside (frame outer : Frame) : Prop :=
  ∃ node, outer.taken.head? = some node ∧ frame.siblings = node.children

/-- How the frames of a walk lie upon each other, the deepest of them first. -/
structure Stacked (limit : Nat) (nodes : List Node) (frames : List Frame) : Prop where
  depths : (frames.map Frame.depth).reverse = List.range' 1 frames.length
  bounded : frames.length ≤ limit
  outermost : ∀ frame ∈ frames.getLast?, frame.siblings = nodes  -- what the walk started from
  nested : frames.IsChain Frame.Inside

variable {limit : Nat} {nodes : List Node} {frame inner : Frame} {outer : List Frame}

/-! ## Frames -/

theorem Frame.siblings_take (taken waiting : List Node) (node : Node) (depth : Nat) :
    siblings ⟨node :: taken, waiting, depth⟩ = siblings ⟨taken, node :: waiting, depth⟩ := by
  rw [siblings, siblings, List.reverse_cons, List.append_assoc]
  rfl

/-- The depths are in order if those around the first frame are, and it is one deeper. -/
theorem depths_cons_iff :
    ((frame :: outer).map Frame.depth).reverse = List.range' 1 (frame :: outer).length ↔
      (outer.map Frame.depth).reverse = List.range' 1 outer.length ∧
        frame.depth = outer.length + 1 := by
  rw [List.map_cons, List.reverse_cons, List.length_cons, List.range'_1_concat]
  constructor
  · intro h
    obtain ⟨houter, hframe⟩ := List.append_inj' h rfl
    exact ⟨houter, by simpa [Nat.add_comm] using hframe⟩
  · rintro ⟨houter, hframe⟩
    rw [houter, hframe, Nat.add_comm]

namespace Stacked

theorem start (h : 0 < limit) (nodes : List Node) :
    Stacked limit nodes (Walk.start nodes).frames where
  depths := rfl
  bounded := h
  outermost := by
    rintro _ ⟨⟩
    rfl
  nested := List.isChain_singleton _

theorem leave (h : Stacked limit nodes (frame :: outer)) : Stacked limit nodes outer where
  depths := (depths_cons_iff.mp h.depths).1
  bounded := Nat.le_of_succ_le h.bounded
  outermost := by
    cases outer with
    | nil => nofun
    | cons next outer => simpa only [List.getLast?_cons_cons] using h.outermost
  nested := h.nested.tail

/-- Another frame in the place of the first one, with the same siblings and of the same depth. -/
theorem replace (h : Stacked limit nodes (frame :: outer))
    (hsiblings : inner.siblings = frame.siblings) (hdepth : inner.depth = frame.depth) :
    Stacked limit nodes (inner :: outer) where
  depths := by
    obtain ⟨houter, hframe⟩ := depths_cons_iff.mp h.depths
    exact depths_cons_iff.mpr ⟨houter, hdepth.trans hframe⟩
  bounded := h.bounded
  outermost := by
    cases outer with
    | nil =>
        rintro _ ⟨⟩
        exact hsiblings.trans (h.outermost frame rfl)
    | cons next outer => simpa only [List.getLast?_cons_cons] using h.outermost
  nested := by
    obtain ⟨hinside, houter⟩ := List.isChain_cons.mp h.nested
    refine List.isChain_cons.mpr ⟨fun next hnext => ?_, houter⟩
    obtain ⟨node, hnode, hchildren⟩ := hinside next hnext
    exact ⟨node, hnode, hsiblings.trans hchildren⟩

theorem descend (h : Stacked limit nodes (frame :: outer)) (hlimit : frame.depth < limit)
    (hinside : inner.Inside frame) (hdepth : inner.depth = frame.depth + 1) :
    Stacked limit nodes (inner :: frame :: outer) where
  depths := by
    refine depths_cons_iff.mpr ⟨h.depths, ?_⟩
    rw [hdepth, (depths_cons_iff.mp h.depths).2, List.length_cons]
  bounded := by
    -- The depth of the first frame is the number of frames, so there is room for one more.
    rw [(depths_cons_iff.mp h.depths).2] at hlimit
    exact hlimit
  outermost := h.outermost
  nested := List.isChain_cons_cons.mpr ⟨hinside, h.nested⟩

end Stacked

/-! ## Steps -/

theorem Move.stacked {walk next : Walk} (hmove : Move limit walk next)
    (h : Stacked limit nodes walk.frames) : Stacked limit nodes next.frames := by
  cases hmove with
  | leave => exact h.leave
  | @descend taken waiting node depth outer visited below held =>
      have htaken : Stacked limit nodes (⟨node :: taken, waiting, depth⟩ :: outer) :=
        h.replace (Frame.siblings_take taken waiting node depth) rfl
      exact htaken.descend below ⟨node, rfl, rfl⟩ rfl
  | @pass taken waiting node depth outer visited bare =>
      exact h.replace (Frame.siblings_take taken waiting node depth) rfl

/-- Two steps for each node visited, one of which may still be owed for each frame, and one more. -/
theorem Move.count_le {walk next : Walk} (hmove : Move limit walk next) {count : Nat}
    (h : count + walk.frames.length ≤ 2 * walk.visited.size + 1) :
    count + 1 + next.frames.length ≤ 2 * next.visited.size + 1 := by
  cases hmove with
  | leave =>
      simp only [List.length_cons] at h ⊢
      omega
  | descend below held =>
      simp only [List.length_cons, Array.size_push] at h ⊢
      omega
  | pass bare =>
      simp only [List.length_cons, Array.size_push] at h ⊢
      omega

theorem after_induction {motive : Nat → Walk → Prop} {first : Walk} (hfirst : motive 0 first)
    (hmove : ∀ count walk next, motive count walk → Move limit walk next →
      motive (count + 1) next) {count : Nat} {walk : Walk}
    (h : first.after limit count = some walk) : motive count walk := by
  induction count generalizing walk with
  | zero =>
      cases h
      exact hfirst
  | succ count ih =>
      obtain ⟨last, hlast, hstep⟩ := Option.bind_eq_some_iff.mp h
      exact hmove count last walk (ih hlast) (move_of_step hstep)

theorem after_succ_of_step {walk next : Walk} (h : walk.step limit = some next) (count : Nat) :
    walk.after limit (count + 1) = next.after limit count := by
  induction count with
  | zero => exact h
  | succ count ih =>
      show (walk.after limit (count + 1)).bind (step limit) = _
      rw [ih]
      rfl

theorem exists_after_eq_run (limit : Nat) (walk : Walk) :
    ∃ count last, walk.after limit count = some last ∧ last.step limit = none ∧
      last.visited = walk.run limit := by
  fun_induction run limit walk with
  | case1 walk h => exact ⟨0, walk, rfl, h, rfl⟩
  | case2 walk next h ih =>
      obtain ⟨count, last, hafter, hend, hvisited⟩ := ih
      exact ⟨count + 1, last, (after_succ_of_step h count).trans hafter, hend, hvisited⟩

/-- After any number of steps the frames of a bounded walk lie upon each other, no more of them than
the bound allows. A step can always be made while there is a frame, and at the end there is none,
the nodes visited are all nodes within the bound, and at most two steps have been made for each of
them and one more. -/
theorem stacked_after (depth : Depth) (nodes : List Node) :
    (∀ count walk, (start nodes).after depth.val count = some walk →
      Stacked depth.val nodes walk.frames ∧
      (walk.step depth.val = none ↔ walk.frames = [])) ∧
    ∃ count last, (start nodes).after depth.val count = some last ∧
      last.step depth.val = none ∧ last.visited.toList = Node.within depth.val nodes ∧
      count ≤ 2 * (Node.within depth.val nodes).length + 1 := by
  constructor
  · intro count walk h
    refine ⟨?_, frames_eq_nil_of_step_eq_none, ?_⟩
    · exact after_induction (motive := fun _ walk => Stacked depth.val nodes walk.frames)
        (.start depth.pos nodes) (fun _ _ _ hstacked hmove => hmove.stacked hstacked) h
    · obtain ⟨frames, visited⟩ := walk
      rintro ⟨⟩
      rfl
  · obtain ⟨count, last, hafter, hend, hvisited⟩ :=
      exists_after_eq_run depth.val (start nodes)
    have hwithin : last.visited.toList = Node.within depth.val nodes :=
      congrArg Array.toList hvisited
    -- Steps and open frames together pay for two visits and one more.
    have hstart : 0 + (start nodes).frames.length ≤ 2 * (start nodes).visited.size + 1 :=
      Nat.le_refl 1
    have hcount : count + last.frames.length ≤ 2 * last.visited.size + 1 :=
      after_induction
        (motive := fun count walk => count + walk.frames.length ≤ 2 * walk.visited.size + 1)
        hstart (fun _ _ _ hle hmove => hmove.count_le hle) hafter
    refine ⟨count, last, hafter, hend, hwithin, ?_⟩
    rw [← hwithin, Array.length_toList]
    exact Nat.le_trans (Nat.le_add_right _ _) hcount

def branchInLoop : Node :=
  .node "WhileStatement" [.node "IfStatement" [.node "ReturnStatement" []]]

/-- Two steps into a loop nothing waits in either frame, but both are still there. The return is
past the bound and opens no third. -/
theorem stacked_after_branchInLoop :
    (start [branchInLoop]).after 2 2 = some
      ⟨[⟨branchInLoop.children, [], 2⟩, ⟨[branchInLoop], [], 1⟩],
        #[branchInLoop, .node "IfStatement" [.node "ReturnStatement" []]]⟩ ∧
    Stacked 2 [branchInLoop] [⟨branchInLoop.children, [], 2⟩, ⟨[branchInLoop], [], 1⟩] := by
  have hafter : (start [branchInLoop]).after 2 2 = some
      ⟨[⟨branchInLoop.children, [], 2⟩, ⟨[branchInLoop], [], 1⟩],
        #[branchInLoop, .node "IfStatement" [.node "ReturnStatement" []]]⟩ := rfl
  exact ⟨hafter, ((stacked_after ⟨2, by decide⟩ [branchInLoop]).1 2 _ hafter).1⟩

end Rubric.Walk
