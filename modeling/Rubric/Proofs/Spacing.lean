import Mathlib.Data.Char
import Mathlib.Data.List.SplitBy
import Rubric.Message

/-!
# The words of a type

A type reads as words because a blank is put wherever a lower-case letter stands before an
upper-case one. `Parted` says what the words are without the blanks: the longest parts of the text
that have no such place inside. They are the only parts of this kind (`Parted.unique`), and put
together again they are the text.

`humanize_eq_intercalate` states that the words, with one blank between each two, are what is
lower-cased, and that each of them may as well be lower-cased by itself.
-/

namespace Rubric

namespace Message

/-- A lower-case letter stands before an upper-case one, both of ASCII. -/
def IsBoundary (a b : Char) : Prop :=
  ('a' ≤ a ∧ a ≤ 'z') ∧ 'A' ≤ b ∧ b ≤ 'Z'

instance : DecidableRel IsBoundary := fun a b =>
  inferInstanceAs (Decidable (('a' ≤ a ∧ a ≤ 'z') ∧ 'A' ≤ b ∧ b ≤ 'Z'))

/-- The words of a text: its parts between the boundaries. -/
structure Parted (text : String) (words : List String) : Prop where
  joined : String.join words = text
  filled : "" ∉ words
  whole : ∀ word ∈ words, word.toList.IsChain fun a b => ¬IsBoundary a b
  cut : words.IsChain fun word next =>
    ∃ a ∈ word.toList.getLast?, ∃ b ∈ next.toList.head?, IsBoundary a b

variable {text : String} {words : List String} {a b : Char}

theorem isLower_iff : a.isLower = true ↔ 'a' ≤ a ∧ a ≤ 'z' := by
  show (decide ('a' ≤ a) && decide (a ≤ 'z')) = true ↔ _
  rw [Bool.and_eq_true, decide_eq_true_eq, decide_eq_true_eq]

theorem isUpper_iff : a.isUpper = true ↔ 'A' ≤ a ∧ a ≤ 'Z' :=
  decide_eq_true_iff

theorem isBoundary_iff : IsBoundary a b ↔ (a.isLower && b.isUpper) = true := by
  rw [Bool.and_eq_true, isLower_iff, isUpper_iff]
  rfl

/-- The second letter of a boundary is not the first one of another. -/
theorem IsBoundary.not_next (h : IsBoundary a b) (c : Char) : ¬IsBoundary b c := by
  rintro ⟨⟨hlow, -⟩, -⟩
  have hgap : ¬ 'a' ≤ 'Z' := by decide
  exact hgap (hlow.trans h.2.2)

/-! ## The words -/

/-- The words are what the text is split into where two characters are a boundary. -/
theorem parted_iff : Parted text words ↔
    text.toList.splitBy (fun a b => !decide (IsBoundary a b)) = words.map String.toList := by
  have hends : ∀ word next : List Char,
      (∃ hword hnext, (!decide (IsBoundary (word.getLast hword) (next.head hnext))) = false) ↔
        ∃ a ∈ word.getLast?, ∃ b ∈ next.head?, IsBoundary a b := by
    intro word next
    constructor
    · rintro ⟨hword, hnext, h⟩
      exact ⟨_, List.getLast_mem_getLast? hword, _, List.head_mem_head? hnext, by simpa using h⟩
    · rintro ⟨a, ha, b, hb, h⟩
      obtain ⟨hword, rfl⟩ := List.mem_getLast?_eq_getLast ha
      obtain ⟨rest, rfl⟩ := List.head?_eq_some_iff.mp hb
      exact ⟨hword, List.cons_ne_nil b rest, by simp [h]⟩
  have hjoined : text.toList = (words.map String.toList).flatten ↔ String.join words = text := by
    rw [← String.toList_inj, String.toList_join, List.flatMap_def]
    exact eq_comm
  have hfilled : [] ∉ words.map String.toList ↔ "" ∉ words := by
    simp [String.toList_eq_nil_iff]
  simp only [List.splitBy_eq_iff, hjoined, hfilled, hends, List.isChain_map, List.forall_mem_map,
    Bool.not_eq_true', decide_eq_false_iff_not]
  exact ⟨fun ⟨joined, filled, whole, cut⟩ => ⟨joined, filled, whole, cut⟩,
    fun ⟨joined, filled, whole, cut⟩ => ⟨joined, filled, whole, cut⟩⟩

theorem Parted.unique {others : List String} (h : Parted text words)
    (hothers : Parted text others) : others = words := by
  have hlists := (parted_iff.mp hothers).symm.trans (parted_iff.mp h)
  exact List.map_injective_iff.mpr (fun _ _ => String.toList_inj.mp) hlists

theorem exists_parted (text : String) : ∃ words, Parted text words := by
  refine ⟨(text.toList.splitBy fun a b => !decide (IsBoundary a b)).map String.ofList, ?_⟩
  rw [parted_iff, List.map_map]
  simp [Function.comp_def]

theorem Parted.tail {word : String} (h : Parted text (word :: words)) :
    Parted (String.join words) words where
  joined := rfl
  filled := fun hmem => h.filled (List.mem_cons_of_mem _ hmem)
  whole := fun other hother => h.whole other (List.mem_cons_of_mem _ hother)
  cut := h.cut.tail

/-! ## The blanks -/

theorem spaced_cons_of_not {rest : List Char} (h : ∀ b ∈ rest.head?, ¬IsBoundary a b) :
    spaced (a :: rest) = a :: spaced rest := by
  cases rest with
  | nil => simp [spaced]
  | cons b rest =>
      have hnot := h b rfl
      rw [isBoundary_iff] at hnot
      rw [spaced, if_neg hnot]

/-- The substitution goes on behind both letters of a boundary. It would come to the same if it went
on at the second of them, which begins no other boundary. -/
theorem spaced_cons_of_isBoundary (h : IsBoundary a b) (rest : List Char) :
    spaced (a :: b :: rest) = a :: ' ' :: spaced (b :: rest) := by
  rw [spaced, if_pos (isBoundary_iff.mp h), spaced_cons_of_not fun c _ => h.not_next c]

/-- A word stays as it is, and a blank is put behind it if another one follows. -/
theorem spaced_append {word : List Char} (hword : word.IsChain fun a b => ¬IsBoundary a b)
    (ha : a ∈ word.getLast?) (h : IsBoundary a b) (rest : List Char) :
    spaced (word ++ b :: rest) = word ++ ' ' :: spaced (b :: rest) := by
  induction word with
  | nil => cases ha
  | cons c word ih =>
      cases word with
      | nil =>
          cases ha
          exact spaced_cons_of_isBoundary h rest
      | cons d word =>
          -- The first letter of the word is passed alone; only its last one stands before `b`.
          obtain ⟨hnot, hrest⟩ := List.isChain_cons_cons.mp hword
          have hfirst : ∀ other ∈ (d :: word ++ b :: rest).head?, ¬IsBoundary c other := by
            rintro _ ⟨⟩
            exact hnot
          rw [List.cons_append, spaced_cons_of_not hfirst,
            ih hrest (List.getLast?_cons_cons ▸ ha)]
          rfl

theorem spaced_whole {word : List Char} (hword : word.IsChain fun a b => ¬IsBoundary a b) :
    spaced word = word := by
  induction word with
  | nil => simp [spaced]
  | cons c word ih =>
      obtain ⟨hnot, hrest⟩ := List.isChain_cons.mp hword
      rw [spaced_cons_of_not hnot, ih hrest]

theorem Parted.spaced_eq (h : Parted text words) :
    spaced text.toList = (" ".intercalate words).toList := by
  obtain rfl := h.joined
  induction words with
  | nil => simp [spaced]
  | cons word words ih =>
      have hword := h.whole word List.mem_cons_self
      cases words with
      | nil => simpa using spaced_whole hword
      | cons next words =>
          obtain ⟨a, ha, b, hb, hboundary⟩ := (List.isChain_cons_cons.mp h.cut).1
          obtain ⟨rest, hnext⟩ := List.head?_eq_some_iff.mp hb
          have hspaced := ih h.tail
          rw [String.join_cons, String.toList_append, hnext, List.cons_append] at hspaced
          rw [String.join_cons, String.join_cons, String.toList_append, String.toList_append, hnext,
            List.cons_append, spaced_append hword ha hboundary, hspaced,
            String.intercalate_cons_cons, String.toList_append, String.toList_append,
            List.append_assoc]
          rfl

example : spaced "aBcDEfG".toList = "a Bc DEf G".toList := by decide

end Message

/-! ## Lower-casing -/

namespace Text.Lower

variable {c : Char}

theorem toNat_of_isAlpha (h : c.isAlpha = true) :
    65 ≤ c.toNat ∧ c.toNat ≤ 90 ∨ 97 ≤ c.toNat ∧ c.toNat ≤ 122 := by
  rcases Bool.or_eq_true_iff.mp h with hupper | hlower
  · exact .inl (Message.isUpper_iff.mp hupper)
  · exact .inr (Message.isLower_iff.mp hlower)

/-- No letter of ASCII is skipped over when the end of a word is looked for. -/
theorem isSkipped_of_isAlpha (h : c.isAlpha = true) : isSkipped c = false := by
  have hgaps : skipped.toList.all (fun range =>
      range.2 < 65 || 90 < range.1 && range.2 < 97 || 122 < range.1) = true := by decide +kernel
  have hletter := toNat_of_isAlpha h
  rw [isSkipped, Ranges.contains, Array.any_eq_false']
  intro range hrange
  have hgap := List.all_eq_true.mp hgaps range hrange.val
  simp only [Bool.or_eq_true, Bool.and_eq_true, decide_eq_true_eq] at hgap ⊢
  omega

/-- A letter of ASCII ends the look for a character with a case. -/
theorem meetsCased_cons_of_isAlpha (h : c.isAlpha = true) (rest : List Char) :
    meetsCased (c :: rest) = true := by
  have hsmall : c.toNat < 128 := by
    have hletter := toNat_of_isAlpha h
    omega
  rw [meetsCased, isSkipped_of_isAlpha h, if_neg Bool.false_ne_true, isCased, if_pos hsmall, h]

theorem meetsCased_append_cons (h : c.isAlpha = true) (first rest : List Char) :
    meetsCased (first ++ c :: rest) = meetsCased (first ++ [c]) := by
  induction first with
  | nil => rw [List.nil_append, List.nil_append, meetsCased_cons_of_isAlpha h,
      meetsCased_cons_of_isAlpha h]
  | cons d first ih => rw [List.cons_append, List.cons_append, meetsCased, meetsCased, ih]

/-- What stands before a text matters only for whether a character with a case is met there. -/
theorem chars_congr {before other : List Char} (h : meetsCased before = meetsCased other)
    (text : List Char) : chars before text = chars other text := by
  induction text generalizing before other with
  | nil => rfl
  | cons d text ih =>
      have hnext : meetsCased (d :: before) = meetsCased (d :: other) := by
        rw [meetsCased, meetsCased, h]
      rw [chars, chars, h, ih hnext]

theorem chars_cons_of_isAlpha (h : c.isAlpha = true) (before rest : List Char) :
    chars before (c :: rest) = char c :: chars [c] rest := by
  have hletter := toNat_of_isAlpha h
  have hdotted : (c.toNat == 0x130) = false := by
    rw [beq_eq_false_iff_ne]
    omega
  have hsigma : (c.toNat == 0x3A3) = false := by
    rw [beq_eq_false_iff_ne]
    omega
  have hcontext : meetsCased (c :: before) = meetsCased [c] :=
    (meetsCased_cons_of_isAlpha h before).trans (meetsCased_cons_of_isAlpha h []).symm
  rw [chars, hdotted, hsigma, chars_congr hcontext]
  rfl

theorem chars_append_of_isAlpha (h : c.isAlpha = true) (before first rest : List Char) :
    chars before (first ++ c :: rest) = chars before (first ++ [c]) ++ chars [c] rest := by
  induction first generalizing before with
  | nil =>
      rw [List.nil_append, List.nil_append, chars_cons_of_isAlpha h, chars_cons_of_isAlpha h]
      rfl
  | cons d first ih =>
      rw [List.cons_append, List.cons_append, chars, chars, ih, meetsCased_append_cons h,
        List.append_assoc]

end Text.Lower

namespace Message

open Text (lower)
open Text.Lower (chars)

theorem IsBoundary.isAlpha (h : IsBoundary a b) : a.isAlpha = true ∧ b.isAlpha = true := by
  obtain ⟨ha, hb⟩ := Bool.and_eq_true_iff.mp (isBoundary_iff.mp h)
  exact ⟨Bool.or_eq_true_iff.mpr (.inr ha), Bool.or_eq_true_iff.mpr (.inl hb)⟩

/-- A text that is cut at a boundary may be lower-cased piece by piece, with or without a blank. -/
theorem lower_append {word rest : String} (ha : a ∈ word.toList.getLast?)
    (hb : b ∈ rest.toList.head?) (h : IsBoundary a b) :
    lower (word ++ rest) = lower word ++ lower rest ∧
      lower (word ++ " " ++ rest) = lower word ++ " " ++ lower rest := by
  obtain ⟨first, hword⟩ := List.getLast?_eq_some_iff.mp ha
  obtain ⟨others, hrest⟩ := List.head?_eq_some_iff.mp hb
  have hsecond : ∀ before, chars before rest.toList = chars [] rest.toList := by
    intro before
    rw [hrest, Text.Lower.chars_cons_of_isAlpha h.isAlpha.2,
      Text.Lower.chars_cons_of_isAlpha h.isAlpha.2]
  have hcut : ∀ more, chars [] (word.toList ++ more) = chars [] word.toList ++ chars [a] more := by
    intro more
    rw [hword, List.append_assoc]
    exact Text.Lower.chars_append_of_isAlpha h.isAlpha.1 [] first more
  have hblank : chars [a] (' ' :: rest.toList) = ' ' :: chars [] rest.toList := by
    rw [← hsecond [' ', a]]
    rfl
  constructor
  · rw [lower, String.toList_append, hcut, hsecond, String.ofList_append]
    rfl
  · have hmore : (word ++ " " ++ rest).toList = word.toList ++ ' ' :: rest.toList := by
      simp [String.toList_append]
    rw [lower, hmore, hcut, hblank, ← List.singleton_append, String.ofList_append,
      String.ofList_append, ← String.append_assoc]
    rfl

theorem mem_head?_append {word : String} (hb : b ∈ word.toList.head?) (rest : String) :
    b ∈ (word ++ rest).toList.head? := by
  rw [String.toList_append]
  exact List.mem_head?_append_of_mem_head? hb

theorem Parted.lower_eq (h : Parted text words) :
    lower text = String.join (words.map lower) ∧
      lower (" ".intercalate words) = " ".intercalate (words.map lower) := by
  obtain rfl := h.joined
  induction words with
  | nil => exact ⟨rfl, rfl⟩
  | cons word words ih =>
      cases words with
      | nil => simp
      | cons next words =>
          obtain ⟨a, ha, b, hb, hboundary⟩ := (List.isChain_cons_cons.mp h.cut).1
          obtain ⟨hjoin, hintercalate⟩ := ih h.tail
          -- With or without blanks, what follows the first word begins with the upper-case letter.
          have hjoined : b ∈ (String.join (next :: words)).toList.head? := by
            rw [String.join_cons]
            exact mem_head?_append hb _
          have hspaced : b ∈ (" ".intercalate (next :: words)).toList.head? := by
            cases words with
            | nil => exact (String.intercalate_singleton (s := " ") (t := next)).symm ▸ hb
            | cons other words =>
                rw [String.intercalate_cons_cons, String.append_assoc]
                exact mem_head?_append hb _
          constructor
          · rw [String.join_cons, (lower_append ha hjoined hboundary).1, hjoin]
            simp
          · rw [String.intercalate_cons_cons, (lower_append ha hspaced hboundary).2, hintercalate]
            simp

/-- A type is lower-cased after one blank has been put at each boundary, and nothing else has been
changed. Its words are its parts between the boundaries, which are put together again if the blanks
are taken away, and no other parts are cut in this way. The words may as well be lower-cased one by
one. -/
theorem humanize_eq_intercalate (type : String) : ∃ words,
    (∀ others, Parted type others ↔ others = words) ∧
    String.join words = type ∧
    humanize type = lower (" ".intercalate words) ∧
    humanize type = " ".intercalate (words.map lower) ∧
    lower type = String.join (words.map lower) := by
  obtain ⟨words, h⟩ := exists_parted type
  have hspaced : humanize type = lower (" ".intercalate words) := by
    rw [humanize, h.spaced_eq, String.ofList_toList]
  obtain ⟨hjoin, hintercalate⟩ := h.lower_eq
  refine ⟨words, fun others => ⟨h.unique, ?_⟩, h.joined, hspaced, hspaced.trans hintercalate,
    hjoin⟩
  rintro rfl
  exact h

end Message

end Rubric
