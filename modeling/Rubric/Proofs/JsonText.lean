import Rubric.Json.Reader
import Rubric.Json.Writer
import Rubric.Proofs.Digits
import Rubric.Proofs.Reading

/-!
# JSON texts read back

Reading the JSON text of a value gives the value back. Each part of a text is followed by the rest,
and the reader is shown to take exactly the part and leave the rest. This is said for one character
of a string (`stringRest_escape`), for a string, for a number and then, by induction on the value,
for a whole value (`reads_of_exact`).
-/

namespace Rubric.Json

/-! ## Strings -/

/-- Four hexadecimal digits are read as the unit they were written for. -/
theorem exists_hex_eq {n : Nat} (hn : n < 0x10000) :
    ∃ a b c d, Text.Quoted.hex 4 n = [a, b, c, d] ∧ unit? a b c d = some n := by
  have hlength : (Text.Quoted.hex 4 n).length = 4 := Text.length_hex (by omega) hn
  obtain ⟨a, b, c, d, hhex⟩ : ∃ a b c d, Text.Quoted.hex 4 n = [a, b, c, d] :=
    List.length_eq_four.mp hlength
  have hvalue : ∀ x ∈ [a, b, c, d], ∃ v, Text.hexValue? x = some v := by
    intro x hx
    have hdigit : Text.isDigitOf 16 x = true := Text.isDigitOf_of_mem_hex (hhex ▸ hx)
    unfold Text.isDigitOf at hdigit
    cases hv : Text.hexValue? x with
    | some v => exact ⟨v, rfl⟩
    | none => simp [hv] at hdigit
  obtain ⟨va, ha⟩ := hvalue a (by simp)
  obtain ⟨vb, hb⟩ := hvalue b (by simp)
  obtain ⟨vc, hc⟩ := hvalue c (by simp)
  obtain ⟨vd, hd⟩ := hvalue d (by simp)
  have hnumber : ((va * 16 + vb) * 16 + vc) * 16 + vd = n := by
    have h := Text.ofDigits_hex 4 n
    rw [hhex] at h
    simpa [Text.ofDigits, ha, hb, hc, hd] using h
  refine ⟨a, b, c, d, hhex, ?_⟩
  simp [unit?, ha, hb, hc, hd, hnumber]

/-- An escape whose digits are none cannot be read. -/
theorem stringRest_eq_none {a b c d : Char} (h : unit? a b c d = none) (read tail : List Char) :
    stringRest read ('\\' :: 'u' :: a :: b :: c :: d :: tail) = none := by
  by_cases htail : ∃ e f g h rest, tail = '\\' :: 'u' :: e :: f :: g :: h :: rest
  · obtain ⟨e, f, g, h', rest, rfl⟩ := htail
    rw [stringRest, h]
  · rw [stringRest.eq_4, h]
    exact fun e f g h rest heq => htail ⟨e, f, g, h, rest, heq⟩

/-- One escape is read as its unit if it is no half of a pair, whatever follows. -/
theorem stringRest_unit {n : Nat} (hn : n < 0xD800 ∨ 0xDFFF < n ∧ n < 0x10000)
    (read tail : List Char) :
    stringRest read (unit n ++ tail) = stringRest (Char.ofNat n :: read) tail := by
  obtain ⟨a, b, c, d, hhex, hunit⟩ := exists_hex_eq (n := n) (by omega)
  have hhigh : Text.isHighHalf n = false := by
    simp only [Text.isHighHalf, Bool.and_eq_false_iff, decide_eq_false_iff_not]
    omega
  have hlow : Text.isLowHalf n = false := by
    simp only [Text.isLowHalf, Bool.and_eq_false_iff, decide_eq_false_iff_not]
    omega
  have hcode : Text.ofCode n = Char.ofNat n := by
    simp only [Text.ofCode, hhigh, hlow, Bool.or_false, Bool.false_eq_true, if_false]
  rw [unit, hhex]
  show stringRest read ('\\' :: 'u' :: a :: b :: c :: d :: tail) = _
  -- The reader looks ahead for a second escape, since two may make one character.
  by_cases htail : ∃ e f g h rest, tail = '\\' :: 'u' :: e :: f :: g :: h :: rest
  · obtain ⟨e, f, g, h, rest, rfl⟩ := htail
    rw [stringRest, hunit]
    cases hnext : unit? e f g h with
    | some low => simp only [hhigh, Bool.false_and, Bool.false_eq_true, if_false, hcode]
    | none => rw [stringRest_eq_none hnext]
  · rw [stringRest.eq_4, hunit]
    · simp only [hcode]
    · exact fun e f g h rest heq => htail ⟨e, f, g, h, rest, heq⟩

/-- Two escapes are read as the character of the pair. -/
theorem stringRest_pair {high low : Nat} (hhigh : 0xD800 ≤ high ∧ high ≤ 0xDBFF)
    (hlow : 0xDC00 ≤ low ∧ low ≤ 0xDFFF) (read tail : List Char) :
    stringRest read (unit high ++ unit low ++ tail) =
      stringRest (Text.ofHalves high low :: read) tail := by
  obtain ⟨a, b, c, d, hhex, hunit⟩ := exists_hex_eq (n := high) (by omega)
  obtain ⟨e, f, g, h, hhex', hunit'⟩ := exists_hex_eq (n := low) (by omega)
  rw [unit, unit, hhex, hhex']
  show stringRest read
    ('\\' :: 'u' :: a :: b :: c :: d :: '\\' :: 'u' :: e :: f :: g :: h :: tail) = _
  rw [stringRest, hunit, hunit']
  simp [Text.isHighHalf, Text.isLowHalf, hhigh, hlow]

/-- A short escape is read as the character it stands for. -/
theorem stringRest_short {c e : Char} (h : shortEscape? e = some c) (read tail : List Char) :
    stringRest read ('\\' :: e :: tail) = stringRest (c :: read) tail := by
  have hne : e ≠ 'u' := by
    rintro rfl
    cases h
  rw [stringRest.eq_5, h]
  · exact fun _ _ _ _ _ _ _ _ _ heq => (hne heq).elim
  · exact fun _ _ _ _ _ heq => (hne heq).elim

theorem stringRest_plain {c : Char} (hquote : c ≠ '"') (hslash : c ≠ '\\') (hc : 32 ≤ c.toNat)
    (read tail : List Char) : stringRest read (c :: tail) = stringRest (c :: read) tail := by
  rw [stringRest.eq_6, if_neg (by omega)]
  · exact hquote
  · exact fun _ _ _ _ _ _ _ _ _ heq => (hslash heq).elim
  · exact fun _ _ _ _ _ heq => (hslash heq).elim
  · exact fun _ _ heq => (hslash heq).elim

/-- A character beyond the basic plane is the one of the pair that is written for it. -/
theorem ofHalves_halves {c : Char} (hc : 0x10000 ≤ c.toNat) :
    Text.ofHalves (0xD800 + (c.toNat - 0x10000) / 0x400)
      (0xDC00 + (c.toNat - 0x10000) % 0x400) = c := by
  have hdiv := Nat.div_add_mod (c.toNat - 0x10000) 0x400
  rw [Text.ofHalves, show 0x10000 + (0xD800 + (c.toNat - 0x10000) / 0x400 - 0xD800) * 0x400 +
    (0xDC00 + (c.toNat - 0x10000) % 0x400 - 0xDC00) = c.toNat by omega]
  exact Char.ofNat_toNat c

/-- What is written for a character is read as that character, whatever follows. -/
theorem stringRest_escape (c : Char) (read tail : List Char) :
    stringRest read (escape c ++ tail) = stringRest (c :: read) tail := by
  have hcode : c.toNat < 0xD800 ∨ 0xDFFF < c.toNat ∧ c.toNat < 0x110000 := c.valid
  have hself : Char.ofNat c.toNat = c := Char.ofNat_toNat c
  unfold escape
  -- A character is no half of a pair, so what is written as one unit cannot be mistaken for one.
  split_ifs with hmark hline hreturn htab hback hfeed hplain hbasic
  · rcases (by simpa using hmark : c = '"' ∨ c = '\\') with rfl | rfl
    · exact stringRest_short rfl read tail
    · exact stringRest_short rfl read tail
  · rw [beq_iff_eq.mp hline]
    exact stringRest_short rfl read tail
  · rw [beq_iff_eq.mp hreturn]
    exact stringRest_short rfl read tail
  · rw [beq_iff_eq.mp htab]
    exact stringRest_short rfl read tail
  · rw [← hself, beq_iff_eq.mp hback]
    exact stringRest_short rfl read tail
  · rw [← hself, beq_iff_eq.mp hfeed]
    exact stringRest_short rfl read tail
  · simp only [Bool.or_eq_true, beq_iff_eq, not_or] at hmark
    simp only [Bool.and_eq_true, decide_eq_true_eq] at hplain
    exact stringRest_plain hmark.1 hmark.2 hplain.1 read tail
  · rw [stringRest_unit (by omega), hself]
  · have hhigh : (c.toNat - 0x10000) / 0x400 ≤ 0x3FF := by omega
    have hlow : (c.toNat - 0x10000) % 0x400 < 0x400 := Nat.mod_lt _ (by omega)
    rw [stringRest_pair (by omega) (by omega), ofHalves_halves (by omega)]

/-- A string is read back behind its first quote. -/
theorem stringRest_chars (chars read rest : List Char) :
    stringRest read (chars.foldr (fun c r => escape c ++ r) ('"' :: rest)) =
      some (String.ofList (read.reverse ++ chars), rest) := by
  induction chars generalizing read with
  | nil =>
      rw [List.foldr_nil, stringRest, List.append_nil]
  | cons c chars ih =>
      rw [List.foldr_cons, stringRest_escape, ih, List.reverse_cons, List.append_assoc,
        List.singleton_append]

theorem stringRest_string (s : String) (rest : List Char) :
    stringRest [] (s.toList.foldr (fun c r => escape c ++ r) ('"' :: rest)) = some (s, rest) := by
  rw [stringRest_chars, List.reverse_nil, List.nil_append, String.ofList_toList]

/-! ## Numbers -/

/-- What may stand behind a value: nothing that would make a number longer. -/
def Ends (rest : List Char) : Prop :=
  ∀ c ∈ rest.head?, c.isDigit = false ∧ c ≠ '.' ∧ c ≠ 'e' ∧ c ≠ 'E'

theorem ends_nil : Ends [] :=
  fun _ h => by cases h

theorem ends_cons {c : Char} (hdigit : c.isDigit = false) (hpoint : c ≠ '.') (hlower : c ≠ 'e')
    (hupper : c ≠ 'E') (rest : List Char) : Ends (c :: rest) := by
  intro d hd
  cases hd
  exact ⟨hdigit, hpoint, hlower, hupper⟩

theorem fraction?_eq_none {rest : List Char} (h : Ends rest) : fraction? rest = none := by
  unfold fraction?
  split
  · exact absurd rfl (h '.' rfl).2.1
  · rfl

theorem exponent?_eq_none {rest : List Char} (h : Ends rest) : exponent? rest = none := by
  cases rest with
  | nil => rfl
  | cons c rest =>
      obtain ⟨-, -, hlower, hupper⟩ := h c rfl
      simp [exponent?, hlower, hupper]

theorem number?_decimals (negative : Bool) (n : Nat) {rest : List Char} (hrest : Ends rest) :
    number? negative (Text.decimals n ++ rest) =
      some (.int (if negative then -(n : Int) else n), rest) := by
  have hdigits : ∀ c ∈ Text.decimals n, c.isDigit = true :=
    fun _ => Text.isDigit_of_mem_decimals
  have hstop : ∀ c ∈ rest.head?, c.isDigit = false := fun c hc => (hrest c hc).1
  have hzero : ((Text.decimals n).isEmpty || (decide ((Text.decimals n).length > 1) &&
      (Text.decimals n).head? == some '0')) = false := by
    rw [List.isEmpty_eq_false_iff.mpr (Text.decimals_ne_nil n), Bool.false_or]
    by_cases hn : 0 < n
    · rw [beq_false_of_ne (Text.head?_decimals_ne_zero hn), Bool.and_false]
    · rw [Nat.eq_zero_of_not_pos hn]
      rfl
  unfold number?
  rw [Text.takeWhile_run hdigits hstop, Text.dropWhile_run hdigits hstop]
  simp only [hzero, fraction?_eq_none hrest, exponent?_eq_none hrest, Bool.false_eq_true, if_false,
    Text.ofDigits_decimals]

/-! ## Blanks -/

def Blank (text : List Char) : Prop :=
  ∀ c ∈ text, c = ' ' ∨ c = '\n'

theorem skipBlanks_append {blanks : List Char} (h : Blank blanks) (cs : List Char) :
    skipBlanks (blanks ++ cs) = skipBlanks cs := by
  refine List.dropWhile_append_of_pos fun c hc => ?_
  rcases h c hc with rfl | rfl
  · rfl
  · rfl

theorem skipBlanks_cons {c : Char} (h : (c == ' ' || c == '\n' || c == '\r' || c == '\t') = false)
    (cs : List Char) : skipBlanks (c :: cs) = c :: cs :=
  List.dropWhile_cons_of_neg (by simp [h])

theorem value?_append {blanks : List Char} (h : Blank blanks) (fuel : Nat) (cs : List Char) :
    value? fuel (blanks ++ cs) = value? fuel cs := by
  cases fuel with
  | zero => rfl
  | succ fuel => rw [value?, value?, skipBlanks_append h]

theorem items?_append {blanks : List Char} (h : Blank blanks) (fuel : Nat) (cs : List Char)
    (read : List Value) : items? fuel (blanks ++ cs) read = items? fuel cs read := by
  cases fuel with
  | zero => rfl
  | succ fuel => rw [items?, items?, value?_append h]

theorem members?_append {blanks : List Char} (h : Blank blanks) (fuel : Nat) (cs : List Char)
    (read : Members) : members? fuel (blanks ++ cs) read = members? fuel cs read := by
  cases fuel with
  | zero => rfl
  | succ fuel => rw [members?, members?, skipBlanks_append h]

/-- A layout that puts nothing but blanks between tokens. -/
def Layout.Blank (layout : Layout) : Prop :=
  ∀ level, Json.Blank (layout.newline level)

theorem Layout.blank_ofIndent (indent : Option Nat) : (Layout.ofIndent indent).Blank := by
  intro level c hc
  cases indent with
  | none => cases hc
  | some count =>
      have hunit : ∀ line ∈ List.replicate level (List.replicate count ' '), c ∈ line →
          c = ' ' := by
        intro line hline hc
        rw [List.eq_of_mem_replicate hline] at hc
        exact List.eq_of_mem_replicate hc
      simp only [Layout.ofIndent, Layout.blanks, Layout.newline, String.toList_ofList,
        List.mem_cons, List.mem_flatten] at hc
      rcases hc with rfl | ⟨line, hline, hc⟩
      · exact .inr rfl
      · exact .inl (hunit line hline hc)

theorem Layout.exists_separator_eq {layout : Layout} (h : layout.Blank) (level : Nat) :
    ∃ blanks, Json.Blank blanks ∧ layout.separator level = ',' :: blanks := by
  cases layout with
  | oneLine =>
      refine ⟨[' '], fun c hc => .inl ?_, rfl⟩
      exact List.mem_singleton.mp hc
  | indented unit => exact ⟨_, h level, rfl⟩

theorem ends_append {blanks rest : List Char} (h : Blank blanks) (hrest : Ends rest) :
    Ends (blanks ++ rest) := by
  cases blanks with
  | nil => exact hrest
  | cons c blanks =>
      rcases h c List.mem_cons_self with rfl | rfl
      · exact ends_cons (by decide) (by decide) (by decide) (by decide) _
      · exact ends_cons (by decide) (by decide) (by decide) (by decide) _

/-! ## Values -/

/-- A character that starts a value: neither a blank nor the end of a list. -/
def Starts (c : Char) : Prop :=
  (c == ' ' || c == '\n' || c == '\r' || c == '\t') = false ∧ c ≠ ']'

instance : DecidablePred Starts :=
  fun c => inferInstanceAs (Decidable (_ ∧ c ≠ ']'))

/-- The text of a value starts as one and is read as the value, up to what follows it. -/
structure Reads (layout : Layout) (value : Value) : Prop where
  starts : ∀ level rest, ∃ c tail, write layout level value rest = c :: tail ∧ Starts c ∧
    rest.length ≤ tail.length
  back : ∀ level fuel rest, Ends rest →
    (write layout level value rest).length ≤ fuel + rest.length →
    value? fuel (write layout level value rest) = some (value, rest)

namespace Reads

variable {layout : Layout}

theorem length_lt {value : Value} (h : Reads layout value) (level : Nat) (rest : List Char) :
    rest.length < (write layout level value rest).length := by
  obtain ⟨c, tail, heq, -, hlength⟩ := h.starts level rest
  rw [heq, List.length_cons]
  omega

/-- What is left to show of a text that starts as a value: that it is read with some fuel. -/
theorem of_starts {value : Value}
    (starts : ∀ level rest, ∃ c tail, write layout level value rest = c :: tail ∧ Starts c ∧
      rest.length ≤ tail.length)
    (back : ∀ level fuel rest, Ends rest →
      (write layout level value rest).length ≤ fuel + 1 + rest.length →
      value? (fuel + 1) (write layout level value rest) = some (value, rest)) :
    Reads layout value := by
  refine ⟨starts, fun level fuel rest hrest hfuel => ?_⟩
  cases fuel with
  | zero =>
      obtain ⟨c, tail, heq, -, hlength⟩ := starts level rest
      rw [heq, List.length_cons] at hfuel
      omega
  | succ fuel => exact back level fuel rest hrest hfuel

/-! ### Values that are not made of others -/

theorem null : Reads layout .null := by
  refine of_starts (fun level rest => ?_) fun level fuel rest _ _ => ?_
  · refine ⟨'n', 'u' :: 'l' :: 'l' :: rest, rfl, by decide, ?_⟩
    simp only [List.length_cons]
    omega
  · show value? (fuel + 1) ('n' :: 'u' :: 'l' :: 'l' :: rest) = _
    rw [value?, skipBlanks_cons (by decide)]
    rfl

theorem bool (b : Bool) : Reads layout (.bool b) := by
  cases b with
  | true =>
      refine of_starts (fun level rest => ?_) fun level fuel rest _ _ => ?_
      · refine ⟨'t', 'r' :: 'u' :: 'e' :: rest, rfl, by decide, ?_⟩
        simp only [List.length_cons]
        omega
      · show value? (fuel + 1) ('t' :: 'r' :: 'u' :: 'e' :: rest) = _
        rw [value?, skipBlanks_cons (by decide)]
        rfl
  | false =>
      refine of_starts (fun level rest => ?_) fun level fuel rest _ _ => ?_
      · refine ⟨'f', 'a' :: 'l' :: 's' :: 'e' :: rest, rfl, by decide, ?_⟩
        simp only [List.length_cons]
        omega
      · show value? (fuel + 1) ('f' :: 'a' :: 'l' :: 's' :: 'e' :: rest) = _
        rw [value?, skipBlanks_cons (by decide)]
        rfl

theorem starts_of_isDigit {c : Char} (h : c.isDigit = true) : Starts c := by
  refine ⟨?_, fun heq => ?_⟩
  · simp only [Bool.or_eq_false_iff, beq_eq_false_iff_ne, ne_eq]
    refine ⟨⟨⟨?_, ?_⟩, ?_⟩, ?_⟩
    all_goals
      rintro rfl
      exact absurd h (by decide)
  · subst heq
    exact absurd h (by decide)

theorem value?_digit {c : Char} (h : c.isDigit = true) (fuel : Nat) (cs : List Char) :
    value? (fuel + 1) (c :: cs) = number? false (c :: cs) := by
  rw [value?, skipBlanks_cons (starts_of_isDigit h).1]
  split
  all_goals first
    | rfl
    | (rename_i heq; cases heq; exact absurd h (by decide))

/-- A digit behind a minus sign starts a negative number. -/
theorem value?_minus {c : Char} (h : c.isDigit = true) (fuel : Nat) (cs : List Char) :
    value? (fuel + 1) ('-' :: c :: cs) = number? true (c :: cs) := by
  have hc : c ≠ 'I' := by
    rintro rfl
    exact absurd h (by decide)
  rw [value?, skipBlanks_cons (by decide)]
  simp [hc]

theorem int (n : Int) : Reads layout (.int n) := by
  obtain ⟨c, cs, hcs⟩ := List.exists_cons_of_ne_nil (Text.decimals_ne_nil n.natAbs)
  have hdigit : c.isDigit = true := Text.isDigit_of_mem_decimals (hcs ▸ List.mem_cons_self)
  refine of_starts (fun level rest => ?_) fun level fuel rest hrest _ => ?_
  · rw [write, Text.toList_toString_int, hcs]
    split
    · refine ⟨'-', c :: cs ++ rest, rfl, by decide, ?_⟩
      rw [List.length_append]
      omega
    · refine ⟨c, cs ++ rest, rfl, starts_of_isDigit hdigit, ?_⟩
      rw [List.length_append]
      omega
  · have hnumber := fun negative => number?_decimals negative n.natAbs hrest
    rw [hcs] at hnumber
    rw [write, Text.toList_toString_int, hcs]
    split
    · refine (value?_minus hdigit fuel (cs ++ rest)).trans ((hnumber true).trans ?_)
      rw [if_pos rfl, show -(n.natAbs : Int) = n by omega]
    · refine (value?_digit hdigit fuel (cs ++ rest)).trans ((hnumber false).trans ?_)
      rw [if_neg (by decide), show (n.natAbs : Int) = n by omega]

theorem length_le_writeString (s : String) (rest : List Char) :
    rest.length + 2 ≤ (writeString s rest).length := by
  rw [writeString, List.length_cons]
  have hchars : ∀ chars : List Char,
      rest.length + 1 ≤ (chars.foldr (fun c r => escape c ++ r) ('"' :: rest)).length := by
    intro chars
    induction chars with
    | nil => exact Nat.le_refl _
    | cons c chars ih =>
        rw [List.foldr_cons, List.length_append]
        omega
  have := hchars s.toList
  omega

theorem string (s : String) : Reads layout (.string s) := by
  refine of_starts (fun level rest => ?_) fun level fuel rest _ _ => ?_
  · have hlength := length_le_writeString s rest
    rw [writeString, List.length_cons] at hlength
    exact ⟨'"', _, rfl, by decide, by omega⟩
  · rw [write, writeString, value?, skipBlanks_cons (by decide)]
    show (stringRest [] _).map _ = _
    rw [stringRest_string]
    rfl

/-! ### Lists -/

theorem ends_writeItems (hlayout : layout.Blank) (level : Nat) (items : List Value)
    (rest : List Char) : Ends (writeItems layout level items rest) := by
  cases items with
  | nil =>
      rw [writeItems]
      exact ends_append (hlayout level)
        (ends_cons (by decide) (by decide) (by decide) (by decide) _)
  | cons item items =>
      obtain ⟨blanks, -, hseparator⟩ := Layout.exists_separator_eq hlayout (level + 1)
      rw [writeItems, hseparator]
      exact ends_cons (by decide) (by decide) (by decide) (by decide) _

theorem length_lt_writeItems (level : Nat) {items : List Value}
    (hitems : ∀ item ∈ items, Reads layout item) (rest : List Char) :
    rest.length < (writeItems layout level items rest).length := by
  induction items with
  | nil =>
      simp only [writeItems, List.length_append, List.length_cons]
      omega
  | cons item items ih =>
      have hrest := ih fun other hother => hitems other (List.mem_cons_of_mem _ hother)
      have hitem := (hitems item List.mem_cons_self).length_lt (level + 1)
        (writeItems layout level items rest)
      rw [writeItems, List.length_append]
      omega

/-- How the reading of a list goes on behind an item. -/
def behindItem (fuel : Nat) (cs : List Char) (read : List Value) :
    Option (List Value × List Char) :=
  match skipBlanks cs with
  | ',' :: rest => items? fuel rest read
  | ']' :: rest => some (read.reverse, rest)
  | _ => none

theorem items?_item {item : Value} (hitem : Reads layout item) (level fuel : Nat)
    {rest : List Char} (hrest : Ends rest)
    (hfuel : (write layout level item rest).length ≤ fuel + rest.length) (read : List Value) :
    items? (fuel + 1) (write layout level item rest) read =
      behindItem fuel rest (item :: read) := by
  rw [items?, hitem.back level fuel rest hrest hfuel]
  rfl

/-- The items of a list are read behind those read before. -/
theorem behindItem_writeItems (hlayout : layout.Blank) (level : Nat) {items : List Value}
    (hitems : ∀ item ∈ items, Reads layout item) (fuel : Nat) (rest : List Char)
    (hfuel : (writeItems layout level items rest).length ≤ fuel + rest.length)
    (read : List Value) :
    behindItem fuel (writeItems layout level items rest) read =
      some (read.reverse ++ items, rest) := by
  induction items generalizing fuel read with
  | nil =>
      rw [writeItems, behindItem, skipBlanks_append (hlayout level), skipBlanks_cons (by decide),
        List.append_nil]
      rfl
  | cons item items ih =>
      obtain ⟨hitem, hitems'⟩ := List.forall_mem_cons.mp hitems
      have hlength := hitem.length_lt (level + 1) (writeItems layout level items rest)
      have hshort := length_lt_writeItems level hitems' rest
      obtain ⟨blanks, hblanks, hseparator⟩ := Layout.exists_separator_eq hlayout (level + 1)
      rw [writeItems, hseparator, List.cons_append] at hfuel ⊢
      rw [List.length_cons, List.length_append] at hfuel
      cases fuel with
      | zero => omega
      | succ fuel =>
          -- The comma has been worth one unit of fuel, which the item costs.
          rw [behindItem, skipBlanks_cons (by decide)]
          show items? (fuel + 1) _ read = _
          rw [items?_append hblanks, items?_item hitem (level + 1) fuel
            (ends_writeItems hlayout level items rest) (by omega), ih hitems' fuel (by omega),
            List.reverse_cons, List.append_assoc, List.singleton_append]

theorem value?_list {cs rest : List Char} {fuel : Nat} {items : List Value} {c : Char}
    {tail : List Char} (hstart : skipBlanks cs = c :: tail) (hc : Starts c)
    (h : items? fuel (c :: tail) [] = some (items, rest)) :
    value? (fuel + 1) ('[' :: cs) = some (.array items, rest) := by
  rw [value?, skipBlanks_cons (by decide)]
  simp only [hstart]
  split
  · rename_i heq
    cases heq
    exact absurd rfl hc.2
  · rw [h]
    rfl

theorem array (hlayout : layout.Blank) {items : List Value}
    (hitems : ∀ item ∈ items, Reads layout item) : Reads layout (.array items) := by
  cases items with
  | nil =>
      refine of_starts (fun level rest => ?_) fun level fuel rest _ _ => ?_
      · exact ⟨'[', ']' :: rest, rfl, by decide, Nat.le_succ _⟩
      · rw [write, value?, skipBlanks_cons (by decide)]
        simp only [skipBlanks_cons (c := ']') (by decide)]
  | cons item items =>
      obtain ⟨hitem, hitems'⟩ := List.forall_mem_cons.mp hitems
      refine of_starts (fun level rest => ?_) fun level fuel rest _ hfuel => ?_
      · have hshort := length_lt_writeItems level hitems' rest
        have hlength := hitem.length_lt (level + 1) (writeItems layout level items rest)
        refine ⟨'[', _, rfl, by decide, ?_⟩
        rw [List.length_append]
        omega
      · have hshort := length_lt_writeItems level hitems' rest
        have hlength := hitem.length_lt (level + 1) (writeItems layout level items rest)
        obtain ⟨c, tail, heq, hc, -⟩ :=
          hitem.starts (level + 1) (writeItems layout level items rest)
        rw [write, List.length_cons, List.length_append] at hfuel
        cases fuel with
        | zero => omega
        | succ fuel =>
            have hread := items?_item hitem (level + 1) fuel
              (ends_writeItems hlayout level items rest) (by omega) []
            rw [behindItem_writeItems hlayout level hitems' fuel rest (by omega)] at hread
            rw [heq] at hread
            rw [write, heq]
            refine value?_list ?_ hc hread
            rw [skipBlanks_append (hlayout (level + 1)), skipBlanks_cons hc.1]

/-! ### Objects -/

theorem length_le_writeKey (key : String) (text : List Char) :
    text.length + 4 ≤ (writeString key (':' :: ' ' :: text)).length :=
  length_le_writeString key (':' :: ' ' :: text)

theorem ends_writeMembers (hlayout : layout.Blank) (level : Nat) (members : Members)
    (rest : List Char) : Ends (writeMembers layout level members rest) := by
  cases members with
  | nil =>
      rw [writeMembers]
      exact ends_append (hlayout level)
        (ends_cons (by decide) (by decide) (by decide) (by decide) _)
  | cons member members =>
      obtain ⟨blanks, -, hseparator⟩ := Layout.exists_separator_eq hlayout (level + 1)
      rw [writeMembers, hseparator]
      exact ends_cons (by decide) (by decide) (by decide) (by decide) _

theorem length_lt_writeMembers (level : Nat) {members : Members}
    (hmembers : ∀ member ∈ members, Reads layout member.2) (rest : List Char) :
    rest.length < (writeMembers layout level members rest).length := by
  induction members with
  | nil =>
      simp only [writeMembers, List.length_append, List.length_cons]
      omega
  | cons member members ih =>
      have hrest := ih fun other hother => hmembers other (List.mem_cons_of_mem _ hother)
      have hvalue := (hmembers member List.mem_cons_self).length_lt (level + 1)
        (writeMembers layout level members rest)
      have hkey := length_le_writeKey member.1
        (write layout (level + 1) member.2 (writeMembers layout level members rest))
      rw [writeMembers, List.length_append]
      omega

/-- How the reading of an object goes on behind a member. -/
def behindMember (fuel : Nat) (cs : List Char) (read : Members) : Option (Members × List Char) :=
  match skipBlanks cs with
  | ',' :: rest => members? fuel rest read
  | '\x7d' :: rest => some (read, rest)
  | _ => none

/-- A key that is not there yet and its value are read. -/
theorem members?_member {value : Value} (hvalue : Reads layout value) (level fuel : Nat)
    (key : String) (read : Members) (hkey : key ∉ read.map Prod.fst) {rest : List Char}
    (hrest : Ends rest) (hfuel : (write layout level value rest).length ≤ fuel + rest.length) :
    members? (fuel + 1) (writeString key (':' :: ' ' :: write layout level value rest)) read =
      behindMember fuel rest (read ++ [(key, value)]) := by
  have hblank : Blank [' '] := fun c hc => .inl (List.mem_singleton.mp hc)
  have hback : value? fuel (' ' :: write layout level value rest) = some (value, rest) :=
    (value?_append hblank fuel _).trans (hvalue.back level fuel rest hrest hfuel)
  rw [members?, writeString, skipBlanks_cons (by decide), ← Members.insert_eq_append hkey]
  simp only [stringRest_string, Option.bind_eq_bind, Option.bind_some,
    skipBlanks_cons (c := ':') (by decide), hback]
  rfl

/-- The members of an object are read behind those read before. -/
theorem behindMember_writeMembers (hlayout : layout.Blank) (level : Nat) {members : Members}
    (hmembers : ∀ member ∈ members, Reads layout member.2) (fuel : Nat) (rest : List Char)
    (hfuel : (writeMembers layout level members rest).length ≤ fuel + rest.length)
    (read : Members) (hkeys : ((read ++ members).map Prod.fst).Nodup) :
    behindMember fuel (writeMembers layout level members rest) read =
      some (read ++ members, rest) := by
  induction members generalizing fuel read with
  | nil =>
      rw [writeMembers, behindMember, skipBlanks_append (hlayout level),
        skipBlanks_cons (by decide), List.append_nil]
      rfl
  | cons member members ih =>
      obtain ⟨key, value⟩ := member
      have hvalue : Reads layout value := hmembers _ List.mem_cons_self
      have hmembers' := (List.forall_mem_cons.mp hmembers).2
      have hkey := length_le_writeKey key
        (write layout (level + 1) value (writeMembers layout level members rest))
      have hlength := hvalue.length_lt (level + 1) (writeMembers layout level members rest)
      have hshort := length_lt_writeMembers level hmembers' rest
      -- A key that has been read before would get the new value in its old place.
      have hnew : key ∉ read.map Prod.fst := Members.not_mem_of_nodup hkeys
      obtain ⟨blanks, hblanks, hseparator⟩ := Layout.exists_separator_eq hlayout (level + 1)
      rw [writeMembers, hseparator, List.cons_append] at hfuel ⊢
      rw [List.length_cons, List.length_append] at hfuel
      cases fuel with
      | zero => omega
      | succ fuel =>
          rw [behindMember, skipBlanks_cons (by decide)]
          show members? (fuel + 1) _ read = _
          rw [members?_append hblanks, members?_member hvalue (level + 1) fuel key read hnew
            (ends_writeMembers hlayout level members rest) (by omega),
            ih hmembers' fuel (by omega) _ (by simpa using hkeys), List.append_assoc,
            List.singleton_append]

theorem object (hlayout : layout.Blank) {members : Members}
    (hmembers : ∀ member ∈ members, Reads layout member.2)
    (hkeys : (members.map Prod.fst).Nodup) : Reads layout (.object members) := by
  cases members with
  | nil =>
      refine of_starts (fun level rest => ?_) fun level fuel rest _ _ => ?_
      · exact ⟨'\x7b', '\x7d' :: rest, rfl, by decide, Nat.le_succ _⟩
      · rw [write, value?, skipBlanks_cons (by decide)]
        simp only [skipBlanks_cons (c := '\x7d') (by decide)]
  | cons member members =>
      obtain ⟨key, value⟩ := member
      have hvalue : Reads layout value := hmembers _ List.mem_cons_self
      have hmembers' := (List.forall_mem_cons.mp hmembers).2
      refine of_starts (fun level rest => ?_) fun level fuel rest _ hfuel => ?_
      · have hkey := length_le_writeKey key
          (write layout (level + 1) value (writeMembers layout level members rest))
        have hlength := hvalue.length_lt (level + 1) (writeMembers layout level members rest)
        have hshort := length_lt_writeMembers level hmembers' rest
        refine ⟨'\x7b', _, rfl, by decide, ?_⟩
        rw [List.length_append]
        omega
      · have hkey := length_le_writeKey key
          (write layout (level + 1) value (writeMembers layout level members rest))
        have hlength := hvalue.length_lt (level + 1) (writeMembers layout level members rest)
        have hshort := length_lt_writeMembers level hmembers' rest
        rw [write, List.length_cons, List.length_append] at hfuel
        cases fuel with
        | zero => omega
        | succ fuel =>
            -- The first member is read alone, and all behind it by the lemma for the rest.
            have hread := members?_member hvalue (level + 1) fuel key [] List.not_mem_nil
              (ends_writeMembers hlayout level members rest) (by omega)
            rw [List.nil_append, behindMember_writeMembers hlayout level hmembers' fuel rest
              (by omega) [(key, value)] hkeys] at hread
            rw [write, value?, skipBlanks_cons (by decide)]
            rw [writeString] at hread ⊢
            simp only [skipBlanks_append (hlayout (level + 1)),
              skipBlanks_cons (c := '"') (by decide)]
            show (members? (fuel + 1) ('"' :: _) []).map _ = _
            rw [hread]
            rfl

end Reads

/-! ## Whole texts -/

/-- A value that JSON has a form of its own for: no number with a fraction and no date occurs in it,
and no key is repeated. -/
inductive Exact : Value → Prop
  | null : Exact .null
  | bool (b : Bool) : Exact (.bool b)
  | int (n : Int) : Exact (.int n)
  | string (s : String) : Exact (.string s)
  | array {items : List Value} (items_exact : ∀ item ∈ items, Exact item) : Exact (.array items)
  | object {members : Members} (members_exact : ∀ member ∈ members, Exact member.2)
      (distinct : (members.map Prod.fst).Nodup) : Exact (.object members)

/-- The text of an exact value is read as the value. -/
theorem reads_of_exact {layout : Layout} (hlayout : layout.Blank) {value : Value}
    (h : Exact value) : Reads layout value := by
  induction h with
  | null => exact .null
  | bool b => exact .bool b
  | int n => exact .int n
  | string s => exact .string s
  | array _ ih => exact .array hlayout ih
  | object _ distinct ih => exact .object hlayout ih distinct

theorem read_render {layout : Layout} (hlayout : layout.Blank) {value : Value}
    (h : Exact value) : read (render layout value) = some value := by
  have hback := (reads_of_exact hlayout h).back 0 ((write layout 0 value []).length + 1) [] ends_nil
    (Nat.le_succ _)
  rw [read, render, String.toList_ofList]
  simp only [hback]
  rfl

end Rubric.Json
