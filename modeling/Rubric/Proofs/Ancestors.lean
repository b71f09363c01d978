import Mathlib.Data.List.Induction
import Rubric.Proofs.Writing
import Rubric.Settings

/-!
# The nearest project file

A project file is looked for in a directory and in the directories above it. The places at or above
a directory are the prefixes of its list of names, so the nearest one with a project file is the
longest such prefix (`IsNearest`).

`nearest_cases` is the run lemma of the search: it passes over places without a project file and
stops at the first one that has a project file or that the system refuses to look at, because a name
or the whole path is too long. `find_eq_ok_iff_isNearest` states what this comes to: the search
answers with the nearest project file, or with nothing if there is none, unless it comes to a place
that is refused first.
-/

namespace Rubric

/-! ## Texts of paths -/

namespace Path

theorem mem_toList_text_iff {c : Char} (hc : c ≠ '/') (parts : List String) :
    c ∈ (text ⟨.root, parts⟩).toList ↔ ∃ part ∈ parts, c ∈ part.toList := by
  have hparts : c ∈ ("/".intercalate parts).toList ↔ ∃ part ∈ parts, c ∈ part.toList := by
    induction parts with
    | nil => simp
    | cons part parts ih =>
        cases parts with
        | nil => simp
        | cons next rest =>
            rw [String.intercalate_cons_cons, String.toList_append, String.toList_append,
              List.mem_append, List.mem_append, ih]
            simp [hc]
  show c ∈ ("/" ++ "/".intercalate parts).toList ↔ _
  rw [String.toList_append, List.mem_append, hparts]
  simp [hc]

theorem contains_null_text {parts : List String}
    (h : ∀ part ∈ parts, Char.ofNat 0 ∉ part.toList) :
    (text ⟨.root, parts⟩).toList.contains (Char.ofNat 0) = false := by
  rw [Bool.eq_false_iff, ne_eq, List.contains_iff_mem, mem_toList_text_iff (by decide) parts]
  rintro ⟨part, hpart, hmem⟩
  exact h part hpart hmem

theorem utf8ByteSize_text_le (above below : List String) (name : String) :
    (text ⟨.root, above ++ [name]⟩).utf8ByteSize ≤
      (text ⟨.root, above ++ below ++ [name]⟩).utf8ByteSize := by
  have hcons : ∀ (part : String) (parts : List String),
      ("/".intercalate (part :: (parts ++ [name]))).utf8ByteSize =
        part.utf8ByteSize + "/".utf8ByteSize +
          ("/".intercalate (parts ++ [name])).utf8ByteSize := by
    intro part parts
    rw [String.intercalate_cons_of_ne_nil (by simp), String.utf8ByteSize_append,
      String.utf8ByteSize_append]
  have hparts : ("/".intercalate (above ++ [name])).utf8ByteSize ≤
      ("/".intercalate (above ++ below ++ [name])).utf8ByteSize := by
    induction above with
    | nil =>
        induction below with
        | nil => exact Nat.le_refl _
        | cons part below ih =>
            simp only [List.nil_append] at ih ⊢
            rw [List.cons_append, hcons]
            exact Nat.le_trans ih (Nat.le_add_left _ _)
    | cons part above ih =>
        rw [List.cons_append, List.cons_append, List.cons_append, hcons, hcons]
        exact Nat.add_le_add_left ih _
  show ("/" ++ "/".intercalate (above ++ [name])).utf8ByteSize ≤
    ("/" ++ "/".intercalate (above ++ below ++ [name])).utf8ByteSize
  rw [String.utf8ByteSize_append, String.utf8ByteSize_append]
  exact Nat.add_le_add_left hparts _

end Path

/-! ## Looking for a file -/

namespace FileTree

variable {tree : FileTree} {reached parts place : List String} {item : Item}

theorem Closed.directory_of_append (h : tree.Closed) {above below : List String} {name : String}
    (hitem : tree.find? (above ++ name :: below) = some item) :
    tree.find? above = some .directory := by
  induction below using List.reverseRecOn generalizing item with
  | nil => exact h above name item hitem
  | append_singleton below last ih =>
      rw [← List.cons_append, ← List.append_assoc] at hitem
      exact ih (h _ last item hitem)

/-- Parts without double points lead to the place that they spell, if something is there and no name
is too long. -/
theorem follow_eq_ok_iff (h : tree.Closed) (hparts : ".." ∉ parts) :
    tree.follow reached parts = .ok (place, item) ↔ place = reached ++ parts ∧
      tree.find? (reached ++ parts) = some item ∧
      ∀ part ∈ parts, part.utf8ByteSize ≤ longestName := by
  induction parts generalizing reached with
  | nil =>
      rw [follow, List.append_nil]
      cases tree.find? reached with
      | none => simp
      | some other => simp [eq_comm]
  | cons part parts ih =>
      obtain ⟨hpart, hparts⟩ := List.ne_and_not_mem_of_not_mem_cons hparts
      have hdown : (part == "..") = false := beq_false_of_ne (Ne.symm hpart)
      have hnext := @ih (reached ++ [part]) hparts
      rw [List.append_assoc, List.singleton_append] at hnext
      rw [List.forall_mem_cons]
      -- A name is looked up in a directory only, so only there can it be too long.
      by_cases hreached : tree.find? reached = some .directory
      · by_cases hlong : longestName < part.utf8ByteSize
        · rw [follow, hreached]
          simp [hlong, Nat.not_le.mpr hlong]
        · rw [follow_cons hreached hlong, hdown]
          simp only [Bool.false_eq_true, if_false, hnext, Nat.not_lt.mp hlong, true_and]
      · constructor
        · intro hfollow
          rw [follow] at hfollow
          split at hfollow
          · cases hfollow
          · cases hfollow
          · exact absurd ‹_› hreached
        · rintro ⟨-, hitem, -⟩
          exact absurd (h.directory_of_append hitem) hreached

/-- The system refuses to follow parts at a name that is too long, if it gets to a directory in
which that name is to be looked up. -/
theorem follow_eq_nameTooLong_iff (h : tree.Closed) (hparts : ".." ∉ parts) :
    tree.follow reached parts = .error .nameTooLong ↔ ∃ above name below,
      parts = above ++ name :: below ∧ tree.find? (reached ++ above) = some .directory ∧
      longestName < name.utf8ByteSize := by
  induction parts generalizing reached with
  | nil =>
      rw [follow]
      cases tree.find? reached with
      | none => simp
      | some item => simp
  | cons part parts ih =>
      obtain ⟨hpart, hparts⟩ := List.ne_and_not_mem_of_not_mem_cons hparts
      have hdown : (part == "..") = false := beq_false_of_ne (Ne.symm hpart)
      have hnext := @ih (reached ++ [part]) hparts
      constructor
      · intro hfollow
        rw [follow] at hfollow
        split at hfollow
        · cases hfollow
        · cases hfollow
        · rename_i hreached
          by_cases hlong : longestName < part.utf8ByteSize
          · exact ⟨[], part, parts, rfl, by rwa [List.append_nil], hlong⟩
          · rw [if_neg hlong, hdown] at hfollow
            obtain ⟨above, name, below, rfl, hdirectory, hname⟩ := hnext.mp hfollow
            rw [List.append_assoc] at hdirectory
            exact ⟨part :: above, name, below, rfl, hdirectory, hname⟩
      · rintro ⟨above, name, below, hsplit, hdirectory, hname⟩
        -- What lies above the name is a directory, as the tree is closed.
        have hreached : tree.find? reached = some .directory := by
          cases above with
          | nil => rwa [List.append_nil] at hdirectory
          | cons first above => exact h.directory_of_append hdirectory
        by_cases hlong : longestName < part.utf8ByteSize
        · rw [follow, hreached]
          exact if_pos hlong
        · cases above with
          | nil =>
              cases hsplit
              exact absurd hname hlong
          | cons first above =>
              cases hsplit
              rw [follow_cons hreached hlong, hdown]
              refine hnext.mpr ⟨above, name, below, rfl, ?_, hname⟩
              rwa [List.append_assoc]

/-- The system refuses a path from the root: the path is too long, or a name is that would have to
be looked up in a directory that is there. -/
def Refuses (tree : FileTree) (parts : List String) : Prop :=
  longestPath < (Path.text ⟨.root, parts⟩).utf8ByteSize ∨ ∃ above name below,
    parts = above ++ name :: below ∧ tree.find? above = some .directory ∧
      longestName < name.utf8ByteSize

theorem follow_of_not_refuses (h : tree.Closed) (hparts : ".." ∉ parts)
    (hitem : tree.find? parts = some item) (hnot : ¬tree.Refuses parts) :
    tree.follow [] parts = .ok (parts, item) := by
  refine (follow_eq_ok_iff h hparts).mpr ⟨rfl, hitem, fun part hpart => ?_⟩
  by_contra hbig
  obtain ⟨above, below, rfl⟩ := List.append_of_mem hpart
  exact hnot (.inr ⟨above, part, below, rfl, h.directory_of_append hitem, Nat.not_le.mp hbig⟩)

/-- Whether a file stands at a place is told exactly if the system does not refuse the path. -/
theorem isFile_cases (h : tree.Closed) (hparts : ".." ∉ parts)
    (husable : ∀ part ∈ parts, Char.ofNat 0 ∉ part.toList) :
    tree.Refuses parts ∧ tree.isFile ⟨.root, parts⟩ = .error .nameTooLong ∨
    ¬tree.Refuses parts ∧ (∃ bytes, tree.find? parts = some (.file bytes)) ∧
      tree.isFile ⟨.root, parts⟩ = .ok true ∨
    ¬tree.Refuses parts ∧ (¬∃ bytes, tree.find? parts = some (.file bytes)) ∧
      tree.isFile ⟨.root, parts⟩ = .ok false := by
  have hnull := Path.contains_null_text husable
  by_cases hlong : longestPath < (Path.text ⟨.root, parts⟩).utf8ByteSize
  · refine .inl ⟨.inl hlong, ?_⟩
    rw [isFile, locate, flaw?, hnull, if_neg Bool.false_ne_true, if_pos hlong]
  -- From here on the path as a whole is fine, and only a name on the way can be too long.
  have hlocate : tree.locate [] ⟨.root, parts⟩ = tree.follow [] parts := by
    refine locate_eq_follow tree [] ?_
    rw [flaw?, hnull, if_neg Bool.false_ne_true, if_neg hlong]
  have hrefuses : tree.Refuses parts ↔ tree.follow [] parts = .error .nameTooLong := by
    rw [follow_eq_nameTooLong_iff h hparts, Refuses, or_iff_right hlong]
    rfl
  rw [isFile, hlocate]
  cases hfollow : tree.follow [] parts with
  | ok found =>
      obtain ⟨place, item⟩ := found
      have hnot : ¬tree.Refuses parts := by
        rw [hrefuses, hfollow]
        intro heq
        cases heq
      obtain ⟨-, hitem, -⟩ := (follow_eq_ok_iff h hparts).mp hfollow
      rw [List.nil_append] at hitem
      cases item with
      | file bytes => exact .inr (.inl ⟨hnot, ⟨bytes, hitem⟩, rfl⟩)
      | directory => exact .inr (.inr ⟨hnot, by simp [hitem], rfl⟩)
  | error fault =>
      by_cases hfault : fault = .nameTooLong
      · subst hfault
        exact .inl ⟨hrefuses.mpr hfollow, rfl⟩
      -- Every other fault of a path means that no file is there.
      · have hnot : ¬tree.Refuses parts := by
          rw [hrefuses, hfollow]
          intro heq
          exact hfault (Except.error.inj heq)
        refine .inr (.inr ⟨hnot, ?_, ?_⟩)
        · rintro ⟨bytes, hbytes⟩
          rw [follow_of_not_refuses h hparts hbytes hnot] at hfollow
          cases hfollow
        · cases fault with
          | nameTooLong => exact absurd rfl hfault
          | _ => rfl

end FileTree

/-! ## The search -/

namespace Settings

variable {tree : FileTree} {directory place : List String}

def projectPath (place : List String) : Path :=
  ⟨.root, place ++ [projectFile]⟩

/-- A directory has a project file, and not a directory of that name. -/
def HasProject (tree : FileTree) (place : List String) : Prop :=
  ∃ bytes, tree.find? (place ++ [projectFile]) = some (.file bytes)

/-- The system refuses to look for the project file of a directory. -/
def Refused (tree : FileTree) (place : List String) : Prop :=
  tree.Refuses (place ++ [projectFile])

/-- An answer names the project file of the nearest directory that has one, at a directory or above
it, or nothing if none of them has one. -/
def IsNearest (tree : FileTree) (directory : List String) : Option Path → Prop
  | some path => ∃ place, path = projectPath place ∧ place <+: directory ∧ HasProject tree place ∧
      ∀ other, other <+: directory → HasProject tree other → other <+: place
  | none => ∀ place, place <+: directory → ¬HasProject tree place

/-- The search comes to a place: it is at or above the directory, and all places on the way to it
have no project file and are not refused. -/
def Reaches (tree : FileTree) (directory place : List String) : Prop :=
  place <+: directory ∧ ∀ other, other <+: directory → place <+: other → other ≠ place →
    ¬Refused tree other ∧ ¬HasProject tree other

/-- A search from a directory has no answer: a name holds a character that no name can hold, or a
place is refused before the search has found a project file. -/
inductive Obstructed (tree : FileTree) (directory : List String) : Prop
  | unusable {name : String} (mem : name ∈ directory) (null : Char.ofNat 0 ∈ name.toList)
  | refused {place : List String} (above : place <+: directory) (refused : Refused tree place)
      (none : ∀ other, other <+: directory → place <+: other → other ≠ place →
        ¬HasProject tree other)

/-- The names of a directory are short enough, and so is the path of its project file. -/
structure Fitting (directory : List String) : Prop where
  usable : ∀ name ∈ directory, Char.ofNat 0 ∉ name.toList
  names : ∀ name ∈ directory, name.utf8ByteSize ≤ FileTree.longestName
  path : (projectPath directory).text.utf8ByteSize ≤ FileTree.longestPath

/-- How the search goes on above a directory, with the names of the directory last first. -/
def onward (tree : FileTree) : List String → Except FileFault (Option Path)
  | [] => .ok none
  | _ :: above => nearest tree above

theorem nearest_eq (tree : FileTree) (names : List String) :
    nearest tree names = (tree.isFile (projectPath names.reverse) >>= fun found =>
      if found then .ok (some (projectPath names.reverse)) else onward tree names) := by
  cases names with
  | nil =>
      rw [nearest]
      refine congrArg _ (funext fun found => ?_)
      cases found with
      | true => rfl
      | false => rfl
  | cons name above =>
      rw [nearest]
      rfl

theorem nearest_step (h : tree.Closed) {names : List String} (hnames : ".." ∉ names)
    (husable : ∀ name ∈ names, Char.ofNat 0 ∉ name.toList) :
    Refused tree names.reverse ∧ nearest tree names = .error .nameTooLong ∨
    ¬Refused tree names.reverse ∧ HasProject tree names.reverse ∧
      nearest tree names = .ok (some (projectPath names.reverse)) ∨
    ¬Refused tree names.reverse ∧ ¬HasProject tree names.reverse ∧
      nearest tree names = onward tree names := by
  have hparts : ".." ∉ names.reverse ++ [projectFile] := by
    simp [hnames, projectFile]
  have hchars : ∀ part ∈ names.reverse ++ [projectFile], Char.ofNat 0 ∉ part.toList := by
    intro part hpart
    rcases List.mem_append.mp hpart with hpart | hpart
    · exact husable part (List.mem_reverse.mp hpart)
    · rw [List.mem_singleton.mp hpart]
      decide
  rcases FileTree.isFile_cases h hparts hchars with
    ⟨hrefused, hfile⟩ | ⟨hrefused, hproject, hfile⟩ | ⟨hrefused, hproject, hfile⟩
  · refine .inl ⟨hrefused, ?_⟩
    rw [nearest_eq, projectPath, hfile]
    rfl
  · refine .inr (.inl ⟨hrefused, hproject, ?_⟩)
    rw [nearest_eq, projectPath, hfile]
    rfl
  · refine .inr (.inr ⟨hrefused, hproject, ?_⟩)
    rw [nearest_eq, projectPath, hfile]
    rfl

theorem reaches_self (tree : FileTree) (directory : List String) :
    Reaches tree directory directory := by
  refine ⟨List.prefix_rfl, fun other hother hbelow hne => ?_⟩
  exact absurd (hother.eq_of_length_le hbelow.length_le) hne

/-- The search comes to a place from a directory if it does so from the directory above, and passes
over the directory. -/
theorem Reaches.concat {name : String} (h : Reaches tree directory place)
    (hrefused : ¬Refused tree (directory ++ [name]))
    (hproject : ¬HasProject tree (directory ++ [name])) :
    Reaches tree (directory ++ [name]) place := by
  refine ⟨h.1.trans (List.prefix_append _ _), fun other hother hbelow hne => ?_⟩
  rcases List.prefix_concat_iff.mp hother with rfl | hother
  · exact ⟨hrefused, hproject⟩
  · exact h.2 other hother hbelow hne

/-- The search stops at the first place that is refused or has a project file, and goes up to the
root if there is none. -/
theorem nearest_cases (h : tree.Closed) {names : List String} (hnames : ".." ∉ names)
    (husable : ∀ name ∈ names, Char.ofNat 0 ∉ name.toList) :
    (∃ place, Reaches tree names.reverse place ∧
      (Refused tree place ∧ nearest tree names = .error .nameTooLong ∨
        ¬Refused tree place ∧ HasProject tree place ∧
          nearest tree names = .ok (some (projectPath place)))) ∨
    (∀ place, place <+: names.reverse → ¬Refused tree place ∧ ¬HasProject tree place) ∧
      nearest tree names = .ok none := by
  induction names with
  | nil =>
      rcases nearest_step h hnames husable with hstop | hstop | ⟨hrefused, hproject, hgo⟩
      · exact .inl ⟨[], reaches_self tree [], .inl hstop⟩
      · exact .inl ⟨[], reaches_self tree [], .inr hstop⟩
      · refine .inr ⟨fun place hplace => ?_, hgo⟩
        rw [List.prefix_nil.mp hplace]
        exact ⟨hrefused, hproject⟩
  | cons name names ih =>
      rcases nearest_step h hnames husable with hstop | hstop | ⟨hrefused, hproject, hgo⟩
      · exact .inl ⟨_, reaches_self tree _, .inl hstop⟩
      · exact .inl ⟨_, reaches_self tree _, .inr hstop⟩
      · obtain ⟨-, hnames⟩ := List.ne_and_not_mem_of_not_mem_cons hnames
        obtain ⟨-, husable⟩ := List.forall_mem_cons.mp husable
        -- The directory above is the list of names without its last name.
        rw [hgo, onward, List.reverse_cons]
        rw [List.reverse_cons] at hrefused hproject
        rcases ih hnames husable with ⟨place, hreaches, hstop⟩ | ⟨hnone, hgo⟩
        · exact .inl ⟨place, hreaches.concat hrefused hproject, hstop⟩
        · refine .inr ⟨fun place hplace => ?_, hgo⟩
          rcases List.prefix_concat_iff.mp hplace with rfl | hplace
          · exact ⟨hrefused, hproject⟩
          · exact hnone place hplace

theorem IsNearest.unique {answer other : Option Path} (h : IsNearest tree directory answer)
    (hother : IsNearest tree directory other) : answer = other := by
  cases answer with
  | none =>
      cases other with
      | none => rfl
      | some path =>
          obtain ⟨place, -, hplace, hproject, -⟩ := hother
          exact absurd hproject (h place hplace)
  | some path =>
      obtain ⟨place, rfl, hplace, hproject, hnearest⟩ := h
      cases other with
      | none => exact absurd hproject (hother place hplace)
      | some path =>
          obtain ⟨second, rfl, hsecond, hhas, hlast⟩ := hother
          have hup := hnearest second hsecond hhas
          have hdown := hlast place hplace hproject
          rw [hup.eq_of_length_le hdown.length_le]

theorem Reaches.isNearest (h : Reaches tree directory place) (hproject : HasProject tree place) :
    IsNearest tree directory (some (projectPath place)) := by
  refine ⟨place, rfl, h.1, hproject, fun other hother hhas => ?_⟩
  rcases List.prefix_or_prefix_of_prefix hother h.1 with hup | hdown
  · exact hup
  · by_cases heq : other = place
    · exact heq ▸ List.prefix_rfl
    · exact absurd hhas (h.2 other hother hdown heq).2

theorem Reaches.not_obstructed (h : Reaches tree directory place)
    (husable : ∀ name ∈ directory, Char.ofNat 0 ∉ name.toList)
    (hrefused : ¬Refused tree place) (hproject : HasProject tree place) :
    ¬Obstructed tree directory := by
  intro hobstructed
  cases hobstructed with
  | unusable mem null => exact husable _ mem null
  | @refused other above refused none =>
      have hne : other ≠ place := by
        rintro rfl
        exact hrefused refused
      rcases List.prefix_or_prefix_of_prefix above h.1 with hup | hdown
      · exact none place h.1 hup (Ne.symm hne) hproject
      · exact (h.2 other above hdown hne).1 refused

theorem find_of_usable (tree : FileTree)
    (husable : ∀ name ∈ directory, Char.ofNat 0 ∉ name.toList) :
    find tree directory = nearest tree directory.reverse := by
  rw [find, FileTree.flaw?, Path.contains_null_text husable, if_neg Bool.false_ne_true]
  split
  case h_1 hflaw =>
    split at hflaw
    · cases hflaw
    · cases hflaw
  case h_2 => rfl

theorem find_of_not_usable (tree : FileTree) {name : String} (mem : name ∈ directory)
    (null : Char.ofNat 0 ∈ name.toList) : find tree directory = .error .unusablePath := by
  have hnull : (Path.text ⟨.root, directory⟩).toList.contains (Char.ofNat 0) = true := by
    rw [List.contains_iff_mem, Path.mem_toList_text_iff (by decide) directory]
    exact ⟨name, mem, null⟩
  rw [find, FileTree.flaw?, hnull, if_pos rfl]

theorem find_cases (h : tree.Closed) (hnormal : ".." ∉ directory) :
    Obstructed tree directory ∧ (∃ fault, find tree directory = .error fault) ∨
    ¬Obstructed tree directory ∧ ∃ answer, IsNearest tree directory answer ∧
      find tree directory = .ok answer := by
  by_cases husable : ∀ name ∈ directory, Char.ofNat 0 ∉ name.toList
  · rw [find_of_usable tree husable]
    have hcases := nearest_cases h (List.mem_reverse.not.mpr hnormal)
      fun name hname => husable name (List.mem_reverse.mp hname)
    rw [List.reverse_reverse] at hcases
    rcases hcases with ⟨place, hreaches, hstop⟩ | ⟨hnone, hfind⟩
    · rcases hstop with ⟨hrefused, hfind⟩ | ⟨hrefused, hproject, hfind⟩
      · refine .inl ⟨.refused hreaches.1 hrefused ?_, _, hfind⟩
        intro other hother hbelow hne
        exact (hreaches.2 other hother hbelow hne).2
      · exact .inr ⟨hreaches.not_obstructed husable hrefused hproject, _,
          hreaches.isNearest hproject, hfind⟩
    · refine .inr ⟨?_, none, fun place hplace => (hnone place hplace).2, hfind⟩
      intro hobstructed
      cases hobstructed with
      | unusable mem null => exact husable _ mem null
      | refused above refused none => exact (hnone _ above).1 refused
  · simp only [not_forall, not_not] at husable
    obtain ⟨name, mem, null⟩ := husable
    exact .inl ⟨.unusable mem null, _, find_of_not_usable tree mem null⟩

/-- Nothing obstructs a search from a directory with names and a path of the usual lengths. -/
theorem Fitting.not_obstructed (h : Fitting directory) (tree : FileTree) :
    ¬Obstructed tree directory := by
  intro hobstructed
  cases hobstructed with
  | unusable mem null => exact h.usable _ mem null
  | @refused place above refused none =>
      obtain ⟨rest, rfl⟩ := above
      rcases refused with hlong | ⟨before, name, after, hsplit, -, hlong⟩
      · have hpath := h.path
        have hbelow := Path.utf8ByteSize_text_le place rest projectFile
        rw [projectPath] at hpath
        omega
      · have hname : name ∈ place ++ [projectFile] := by
          rw [hsplit]
          simp
        rcases List.mem_append.mp hname with hname | hname
        · have hshort := h.names name (List.mem_append_left rest hname)
          omega
        · rw [List.mem_singleton.mp hname] at hlong
          exact absurd hlong (by decide)

/-- The search answers exactly if it is not obstructed, and then with the nearest project file, or
with nothing if there is none. From a directory with names and a path of the usual lengths it always
answers. -/
theorem find_eq_ok_iff_isNearest (h : tree.Closed) (hnormal : ".." ∉ directory) :
    (∀ answer, find tree directory = .ok answer ↔
      IsNearest tree directory answer ∧ ¬Obstructed tree directory) ∧
    ((∃ answer, find tree directory = .ok answer) ↔ ¬Obstructed tree directory) ∧
    (Fitting directory → ¬Obstructed tree directory) := by
  refine ⟨fun answer => ?_, ?_, fun hfitting => hfitting.not_obstructed tree⟩
  · rcases find_cases h hnormal with ⟨hobstructed, fault, hfind⟩ | ⟨hfree, given, hnearest, hfind⟩
    · rw [hfind]
      exact ⟨nofun, fun ⟨_, hfree⟩ => absurd hobstructed hfree⟩
    · rw [hfind, Except.ok.injEq]
      constructor
      · rintro rfl
        exact ⟨hnearest, hfree⟩
      · rintro ⟨hother, -⟩
        exact hnearest.unique hother
  · rcases find_cases h hnormal with ⟨hobstructed, fault, hfind⟩ | ⟨hfree, given, -, hfind⟩
    · rw [hfind]
      exact ⟨nofun, fun hfree => absurd hobstructed hfree⟩
    · exact ⟨fun _ => hfree, fun _ => ⟨given, hfind⟩⟩

/-- A project file at the root, and a directory of that name further down. -/
def nestedTree : FileTree :=
  ⟨[(["pyproject.toml"], .file ByteArray.empty), (["a"], .directory), (["a", "b"], .directory),
    (["a", "pyproject.toml"], .directory)]⟩

theorem closed_nestedTree : nestedTree.Closed := by
  refine FileTree.closed_of_forall fun entry hentry => ?_
  simp only [nestedTree, List.mem_cons, List.not_mem_nil, or_false] at hentry
  rcases hentry with rfl | rfl | rfl | rfl
  · rfl
  · rfl
  · rfl
  · rfl

theorem fitting_nested : Fitting ["a", "b"] where
  usable := by decide
  names := by decide
  path := by decide +kernel

/-- From below, the search passes over the directory and finds the file. -/
theorem find_nestedTree_isNearest :
    find nestedTree ["a", "b"] = .ok (some (projectPath [])) ∧
      IsNearest nestedTree ["a", "b"] (some (projectPath [])) ∧
      ¬Obstructed nestedTree ["a", "b"] := by
  have hfind : find nestedTree ["a", "b"] = .ok (some (projectPath [])) := rfl
  obtain ⟨hanswer, -, hfree⟩ := find_eq_ok_iff_isNearest closed_nestedTree
    (show ".." ∉ ["a", "b"] by decide)
  exact ⟨hfind, ((hanswer _).mp hfind).1, hfree fitting_nested⟩

def letters (n : Nat) : String := String.ofList (List.replicate n 'a')

theorem null_not_mem_letters (n : Nat) : Char.ofNat 0 ∉ (letters n).toList := by
  intro hnull
  rw [letters, String.toList_ofList] at hnull
  exact absurd (List.eq_of_mem_replicate hnull) (by decide)

def longName : String := letters 256

theorem utf8ByteSize_longName : longName.utf8ByteSize = 256 := by decide +kernel

theorem longName_ne {name : String} (h : name.utf8ByteSize ≠ 256) : longName ≠ name := by
  rintro rfl
  exact h utf8ByteSize_longName

/-- The directory above has a project file, but the search ends at the name that is too long. -/
theorem find_nestedTree_longName :
    IsNearest nestedTree [longName] (some (projectPath [])) ∧
      find nestedTree [longName] = .error .nameTooLong := by
  have hlong : FileTree.longestName < longName.utf8ByteSize := by
    rw [utf8ByteSize_longName]
    decide
  have hrefused : Refused nestedTree [longName] :=
    .inr ⟨[], longName, [projectFile], rfl, rfl, hlong⟩
  have hnormal : ".." ∉ [longName] := by
    rw [List.mem_singleton]
    exact Ne.symm (longName_ne (by decide))
  have husable : ∀ name ∈ [longName], Char.ofNat 0 ∉ name.toList :=
    List.forall_mem_singleton.mpr (null_not_mem_letters 256)
  refine ⟨⟨[], rfl, List.nil_prefix, ⟨_, rfl⟩, fun other hother hproject => ?_⟩, ?_⟩
  · rcases List.prefix_cons_iff.mp hother with rfl | ⟨rest, rfl, hrest⟩
    · exact List.prefix_rfl
    · obtain ⟨bytes, hbytes⟩ := hproject
      have hne : (longName == "a") = false := beq_false_of_ne (longName_ne (by decide))
      rw [List.prefix_nil.mp hrest] at hbytes
      simp [nestedTree, FileTree.find?, projectFile, List.lookup_cons, hne] at hbytes
  · rw [find_of_usable nestedTree husable]
    rcases nearest_step closed_nestedTree hnormal husable with
      ⟨-, hfind⟩ | ⟨hnot, -⟩ | ⟨hnot, -⟩
    · exact hfind
    · exact absurd hrefused hnot
    · exact absurd hrefused hnot

end Settings

end Rubric
