import Mathlib.Algebra.Group.Nat.Defs
import Mathlib.Data.List.Basic
import Rubric.Text.Digit
import Rubric.Text.Quoted

/-!
# Digits read back

The digits that a number is written in stand for that number: in any base up to sixteen, with zeros
in front, and for integers with their sign. A run of digits ends where something else follows.
-/

namespace Rubric.Text

/-! ## Runs of characters -/

section Run

variable {p : Char → Bool} {run rest : List Char} (hrun : ∀ c ∈ run, p c = true)
  (hrest : ∀ c ∈ rest.head?, p c = false)

include hrun hrest

theorem takeWhile_run : (run ++ rest).takeWhile p = run := by
  rw [List.takeWhile_append_of_pos hrun]
  cases rest with
  | nil => rw [List.takeWhile_nil, List.append_nil]
  | cons c rest =>
      rw [List.takeWhile_cons_of_neg (by simp [hrest c rfl]), List.append_nil]

theorem dropWhile_run : (run ++ rest).dropWhile p = rest := by
  rw [List.dropWhile_append_of_pos hrun]
  cases rest with
  | nil => rfl
  | cons c rest => exact List.dropWhile_cons_of_neg (by simp [hrest c rfl])

end Run

/-! ## One digit after the other -/

theorem hexValue?_digitChar : ∀ digit < 16, hexValue? (Nat.digitChar digit) = some digit := by
  decide

theorem ofDigits_concat (base : Nat) (digits : List Char) (c : Char) :
    ofDigits base (digits ++ [c]) = ofDigits base digits * base + (hexValue? c).getD 0 := by
  rw [ofDigits, List.foldl_append]
  rfl

theorem ofDigits_zeros_append (base count : Nat) (digits : List Char) :
    ofDigits base (List.replicate count '0' ++ digits) = ofDigits base digits := by
  have hzeros : ofDigits base (List.replicate count '0') = 0 := by
    induction count with
    | zero => rfl
    | succ count ih =>
        rw [List.replicate_succ', ofDigits_concat, ih, Nat.zero_mul]
        rfl
  rw [ofDigits, List.foldl_append, ← ofDigits, hzeros]
  rfl

section Base

variable {base : Nat} (hone : 1 < base) (hsixteen : base ≤ 16)

include hone hsixteen

theorem ofDigits_toDigits (n : Nat) : ofDigits base (Nat.toDigits base n) = n := by
  induction n using Nat.strongRecOn with
  | ind n ih =>
      by_cases h : n < base
      · rw [Nat.toDigits_of_lt_base h, ← List.nil_append [n.digitChar], ofDigits_concat,
          hexValue?_digitChar n (by omega)]
        show 0 * base + n = n
        rw [Nat.zero_mul, Nat.zero_add]
      · have hbase : base ≤ n := Nat.le_of_not_lt h
        have hdigit : n % base < base := Nat.mod_lt n (by omega)
        rw [Nat.toDigits_of_base_le hone hbase, ofDigits_concat,
          ih (n / base) (Nat.div_lt_self (by omega) hone), hexValue?_digitChar _ (by omega),
          Nat.mul_comm]
        exact Nat.div_add_mod n base

theorem isDigitOf_of_mem_toDigits {n : Nat} {c : Char} (hc : c ∈ Nat.toDigits base n) :
    isDigitOf base c = true := by
  have hdigit : ∀ digit < base, isDigitOf base (Nat.digitChar digit) = true := by
    intro digit h
    rw [isDigitOf, hexValue?_digitChar digit (by omega)]
    exact decide_eq_true h
  induction n using Nat.strongRecOn with
  | ind n ih =>
      by_cases h : n < base
      · rw [Nat.toDigits_of_lt_base h, List.mem_singleton] at hc
        exact hc ▸ hdigit n h
      · rw [Nat.toDigits_of_base_le hone (Nat.le_of_not_lt h), List.mem_append,
          List.mem_singleton] at hc
        rcases hc with hc | rfl
        · exact ih (n / base) (Nat.div_lt_self (by omega) hone) hc
        · exact hdigit _ (Nat.mod_lt n (by omega))

end Base

/-! ## Hexadecimal digits of a fixed width -/

theorem length_hex {width n : Nat} (hwidth : 0 < width) (hn : n < 16 ^ width) :
    (Quoted.hex width n).length = width := by
  have hlength : (Nat.toDigits 16 n).length ≤ width :=
    (Nat.length_toDigits_le_iff (by omega) hwidth).mpr hn
  rw [Quoted.hex, List.length_append, List.length_replicate]
  omega

theorem ofDigits_hex (width n : Nat) : ofDigits 16 (Quoted.hex width n) = n := by
  rw [Quoted.hex, ofDigits_zeros_append]
  exact ofDigits_toDigits (by omega) (by omega) n

theorem isDigitOf_of_mem_hex {width n : Nat} {c : Char} (hc : c ∈ Quoted.hex width n) :
    isDigitOf 16 c = true := by
  rw [Quoted.hex, List.mem_append] at hc
  rcases hc with hc | hc
  · rw [List.eq_of_mem_replicate hc]
    rfl
  · exact isDigitOf_of_mem_toDigits (by omega) (by omega) hc

/-! ## Decimal digits -/

/-- The decimal digits of a natural number. -/
def decimals (n : Nat) : List Char := Nat.toDigits 10 n

theorem ofDigits_decimals (n : Nat) : ofDigits 10 (decimals n) = n :=
  ofDigits_toDigits (by omega) (by omega) n

theorem isDigit_of_mem_decimals {n : Nat} {c : Char} (hc : c ∈ decimals n) : c.isDigit = true :=
  Nat.isDigit_of_mem_toDigits (by omega) (by omega) hc

theorem decimals_ne_nil (n : Nat) : decimals n ≠ [] :=
  Nat.toDigits_ne_nil

theorem length_decimals_le_iff {n count : Nat} (hcount : 0 < count) :
    (decimals n).length ≤ count ↔ ¬ Nat.pow 10 count ≤ n :=
  (Nat.length_toDigits_le_iff (by omega) hcount).trans Nat.not_le.symm

theorem head?_decimals_ne_zero {n : Nat} (hn : 0 < n) : (decimals n).head? ≠ some '0' := by
  induction n using Nat.strongRecOn with
  | ind n ih =>
      by_cases h : n < 10
      · have hdigit : ∀ n < 10, 0 < n → n.digitChar ≠ '0' := by decide
        rw [decimals, Nat.toDigits_of_lt_base h, List.head?_cons]
        exact fun heq => hdigit n h hn (Option.some_inj.mp heq)
      · have hten : 10 ≤ n := Nat.le_of_not_lt h
        rw [decimals, Nat.toDigits_of_base_le (by omega) hten,
          List.head?_append_of_ne_nil _ Nat.toDigits_ne_nil]
        exact ih (n / 10) (by omega) (by omega)

theorem decimals_zero : decimals 0 = ['0'] := rfl

/-- An integer is written in the digits of its size, behind a sign if it is negative. -/
theorem toList_toString_int (n : Int) :
    (toString n).toList = if n < 0 then '-' :: decimals n.natAbs else decimals n.natAbs := by
  show n.repr.toList = _
  rw [Int.repr_eq_if]
  by_cases h : n < 0
  · rw [if_neg (by omega), if_pos h, String.toList_append, Nat.toList_repr,
      show (-n).toNat = n.natAbs by omega]
    rfl
  · rw [if_pos (by omega), if_neg h, Nat.toList_repr, show n.toNat = n.natAbs by omega]
    rfl

theorem exists_toString_int_eq_cons (n : Int) :
    ∃ c cs, (toString n).toList = c :: cs ∧ (c = '-' ∨ c.isDigit = true) := by
  rw [toList_toString_int]
  split
  · exact ⟨'-', _, rfl, .inl rfl⟩
  · obtain ⟨c, cs, hcs⟩ := List.exists_cons_of_ne_nil (decimals_ne_nil n.natAbs)
    exact ⟨c, cs, hcs, .inr (isDigit_of_mem_decimals (hcs ▸ List.mem_cons_self))⟩

end Rubric.Text
