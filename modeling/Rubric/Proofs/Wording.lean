import Mathlib.Data.List.TakeWhile
import Rubric.Message
import Rubric.Proofs.Mention

/-!
# The wording of structure requirements

A description names the types that an entry mentions, each once and in the order in which they are
mentioned. `Worded` says what stands between the names, without the prose lists that put it there:
"containing" after an entry that contains others, a comma or "and" after any other. The names of one
level and of the levels below it are joined by different functions, so `Worded.append` is what
carries the induction: two worded texts with a separator between them are worded.

Of a requirement the same is said after a verb that gives the verdict. What is trimmed from the end
never reaches the verb (`containment_eq`), so the two verdicts read differently.
`describe_words_nodeTypes` puts all of this together.
-/

namespace Rubric

/-! ## Entries in order -/

namespace Entry

def contents : Entry → List Entry
  | .type _ => []
  | .nested _ contains => contains

mutual

/-- An entry and all entries inside it, each before those that it contains. -/
def preorder : Entry → List Entry
  | .type name => [.type name]
  | .nested parent contains => .nested parent contains :: preorderOfList contains

/-- Entries and all entries inside them, each before those that it contains. -/
def preorderOfList : List Entry → List Entry
  | [] => []
  | entry :: rest => preorder entry ++ preorderOfList rest

end

mutual

/-- The types that an entry mentions are those that the entries inside it ask for, in order. -/
theorem map_asked_preorder : (entry : Entry) → entry.preorder.map asked = entry.nodeTypes
  | .type name => rfl
  | .nested parent contains => by
      rw [preorder, List.map_cons, map_asked_preorderOfList contains, nodeTypes]
      rfl

theorem map_asked_preorderOfList :
    (entries : List Entry) → (preorderOfList entries).map asked = nodeTypesOfList entries
  | [] => rfl
  | entry :: rest => by
      rw [preorderOfList, List.map_append, map_asked_preorder entry, map_asked_preorderOfList rest,
        nodeTypesOfList]

end

end Entry

/-! ## Trimmed texts -/

namespace Text

/-- A text is trimmed to another: only blanks behind it are left out, and it ends in none. -/
def TrimsTo (whole trimmed : String) : Prop :=
  (∃ blanks : List Char, whole.toList = trimmed.toList ++ blanks ∧ ∀ c ∈ blanks, isBlank c = true) ∧
    ∀ c, trimmed.toList.getLast? = some c → isBlank c = false

theorem trimsTo_trimEnd (text : String) : TrimsTo text (trimEnd text) := by
  refine ⟨⟨(text.toList.reverse.takeWhile isBlank).reverse, ?_, ?_⟩, ?_⟩
  · rw [trimEnd, String.toList_ofList, ← List.reverse_append, List.takeWhile_append_dropWhile,
      List.reverse_reverse]
  · intro c hc
    exact List.mem_takeWhile_imp (List.mem_reverse.mp hc)
  · intro c hc
    rw [trimEnd, String.toList_ofList, List.getLast?_reverse] at hc
    have hhead := List.head?_dropWhile_not isBlank text.toList.reverse
    rw [hc] at hhead
    exact hhead

theorem trimEnd_append {text : String} {c : Char} (hlast : text.toList.getLast? = some c)
    (hc : isBlank c = false) (more : String) :
    trimEnd (text ++ more) = text ++ trimEnd more := by
  have hkept : text.toList.reverse.dropWhile isBlank = text.toList.reverse := by
    rw [← List.head?_reverse] at hlast
    obtain ⟨rest, hrest⟩ := List.head?_eq_some_iff.mp hlast
    rw [hrest, List.dropWhile_cons_of_neg (by rw [hc]; exact Bool.false_ne_true)]
  apply String.toList_injective
  rw [trimEnd, trimEnd, String.toList_append, String.toList_append, String.toList_ofList,
    String.toList_ofList, List.reverse_append, List.dropWhile_append]
  split
  case isTrue hempty =>
    rw [List.isEmpty_iff.mp hempty, hkept]
    simp
  case isFalse =>
    simp

end Text

/-! ## Descriptions -/

namespace Message

def named (entry : Entry) : String :=
  withArticle (humanize entry.asked)

/-- A text names entries one after another. Behind the name of an entry that contains others stands
"containing", behind any other a comma or "and", and behind the last name nothing. -/
inductive Worded : List Entry → String → Prop
  | last {entry : Entry} (plain : entry.contents = []) : Worded [entry] (named entry)
  | containing {entry : Entry} {entries : List Entry} {text : String}
      (holds : entry.contents ≠ []) (rest : Worded entries text) :
      Worded (entry :: entries) (named entry ++ " containing " ++ text)
  | listed {entry : Entry} {entries : List Entry} {text separator : String}
      (plain : entry.contents = []) (comma : separator = ", " ∨ separator = " and ")
      (rest : Worded entries text) :
      Worded (entry :: entries) (named entry ++ separator ++ text)

theorem Worded.append {first second : List Entry} {text more separator : String}
    (h : Worded first text) (comma : separator = ", " ∨ separator = " and ")
    (hmore : Worded second more) : Worded (first ++ second) (text ++ separator ++ more) := by
  induction h with
  | last plain => exact .listed plain comma hmore
  | containing holds _ ih =>
      have hnext := Worded.containing holds ih
      rwa [← String.append_assoc, ← String.append_assoc] at hnext
  | listed plain inner _ ih =>
      have hnext := Worded.listed plain inner ih
      rwa [← String.append_assoc, ← String.append_assoc] at hnext

/-- A prose list of descriptions names all entries of the list, one after another. -/
theorem worded_proseList {first : Entry} {rest : List Entry}
    (h : ∀ entry ∈ first :: rest, Worded entry.preorder (describe entry)) :
    Worded (Entry.preorderOfList (first :: rest))
      (proseList (describe first :: describeAll rest)) := by
  rw [Entry.preorderOfList]
  obtain ⟨hfirst, hothers⟩ := List.forall_mem_cons.mp h
  induction rest generalizing first with
  | nil =>
      rw [Entry.preorderOfList, List.append_nil, describeAll, proseList]
      exact hfirst
  | cons second rest ih =>
      obtain ⟨hsecond, hrest⟩ := List.forall_mem_cons.mp hothers
      have hworded := ih hothers hsecond hrest
      rw [Entry.preorderOfList, describeAll]
      -- The last separator of a list is "and", every other one is a comma.
      cases rest with
      | nil =>
          show Worded _ (describe first ++ " and " ++ describe second)
          exact hfirst.append (.inr rfl) hworded
      | cons third rest =>
          show Worded _ (describe first ++ ", " ++ proseList (describe second :: _))
          exact hfirst.append (.inl rfl) hworded

theorem worded_describe : (entry : Entry) → Worded entry.preorder (describe entry)
  | .type name => by
      rw [describe, Entry.preorder]
      exact .last rfl
  | .nested parent [] => by
      rw [describe, Entry.preorder, Entry.preorderOfList]
      exact .last rfl
  | .nested parent (first :: rest) => by
      have hinside : ∀ entry ∈ first :: rest, Worded entry.preorder (describe entry) := by
        intro entry hentry
        have hsize := List.sizeOf_lt_of_mem hentry
        exact worded_describe entry
      rw [describe, Entry.preorder]
      exact .containing (List.cons_ne_nil first rest) (worded_proseList hinside)

/-! ## Verdicts -/

def verb (passed : Bool) : String :=
  if passed then " contains" else " must contain"

theorem exists_getLast?_verb (before : String) (passed : Bool) :
    ∃ c, (before ++ verb passed).toList.getLast? = some c ∧ Text.isBlank c = false := by
  rw [String.toList_append, List.getLast?_append]
  cases passed with
  | true => exact ⟨'s', by simp [verb], by decide⟩
  | false => exact ⟨'n', by simp [verb], by decide⟩

theorem containment_eq (requirement : Requirement) (passed : Bool) :
    containment requirement passed = "The " ++ humanize requirement.parent ++ verb passed ++
      Text.trimEnd (" " ++ proseList (describeAll requirement.contains)) := by
  have hverb : (if passed then " contains " else " must contain ") = verb passed ++ " " := by
    cases passed with
    | true => decide
    | false => decide
  obtain ⟨c, hlast, hc⟩ := exists_getLast?_verb ("The " ++ humanize requirement.parent) passed
  rw [← Text.trimEnd_append hlast hc, containment, hverb]
  simp only [String.append_assoc]

theorem containment_true_ne_false (requirement : Requirement) :
    containment requirement true ≠ containment requirement false := by
  intro h
  rw [containment_eq, containment_eq, String.append_assoc, String.append_assoc] at h
  have hverbs := congrArg String.toList h
  simp [verb] at hverbs

/-- A description of an entry names the types that the entry mentions, in order. Of a requirement,
the message names the parent, gives the verdict and names all other types that it mentions; only
blanks at the end are left out. The messages of the two verdicts differ. -/
theorem describe_words_nodeTypes :
    (∀ entry : Entry, entry.preorder.map Entry.asked = entry.nodeTypes ∧
      Worded entry.preorder (describe entry)) ∧
    ∀ requirement : Requirement, ∃ text,
      requirement.nodeTypes =
        requirement.parent :: (Entry.preorderOfList requirement.contains).map Entry.asked ∧
      (Entry.preorderOfList requirement.contains = [] ∧ text = "" ∨
        Worded (Entry.preorderOfList requirement.contains) text) ∧
      (∀ passed : Bool, Text.TrimsTo ("The " ++ humanize requirement.parent ++
        (if passed then " contains " else " must contain ") ++ text)
        (containment requirement passed)) ∧
      containment requirement true ≠ containment requirement false := by
  constructor
  · intro entry
    exact ⟨Entry.map_asked_preorder entry, worded_describe entry⟩
  · intro requirement
    refine ⟨proseList (describeAll requirement.contains), ?_, ?_, ?_,
      containment_true_ne_false requirement⟩
    · rw [Entry.map_asked_preorderOfList]
      rfl
    · cases requirement.contains with
      | nil => exact .inl ⟨rfl, rfl⟩
      | cons first rest => exact .inr (worded_proseList fun entry _ => worded_describe entry)
    · intro passed
      exact Text.trimsTo_trimEnd _

end Message

end Rubric
