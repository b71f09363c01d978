import Rubric.Proofs.Digits
import Rubric.Toml.Lexeme
import Rubric.Toml.Writer

/-!
# Parts of TOML values read back

A string is read as the text it was written for, one character after the other
(`basicString?_escapeChar`), and an integer that is not oversized as itself (`number_int`). It is
kept apart from all else that starts with digits: dates, times and numbers of other bases.
What is written holds no carriage return, which a reader would take for part of a line end.
-/

namespace Rubric.Toml

/-! ## No carriage returns -/

/-- No character of a text is a carriage return. -/
def Clean (text : List Char) : Prop :=
  '\r' ∉ text

@[simp] theorem clean_nil : Clean [] := List.not_mem_nil

@[simp] theorem clean_cons {c : Char} {text : List Char} :
    Clean (c :: text) ↔ c ≠ '\r' ∧ Clean text := by
  rw [Clean, List.mem_cons, not_or, ne_comm]
  rfl

@[simp] theorem clean_append {first second : List Char} :
    Clean (first ++ second) ↔ Clean first ∧ Clean second := by
  rw [Clean, List.mem_append, not_or]
  rfl

theorem clean_of_forall {text : List Char} {p : Char → Bool} (h : ∀ c ∈ text, p c = true)
    (hp : p '\r' = false) : Clean text := by
  intro hmem
  rw [h '\r' hmem] at hp
  cases hp

/-! ## Strings -/

theorem clean_escapeChar (c : Char) : Clean (escapeChar c) := by
  have hhex : Clean (Text.Quoted.hex 4 c.toNat) :=
    clean_of_forall (fun _ => Text.isDigitOf_of_mem_hex) (by decide)
  by_cases hc : c = '\r'
  · subst hc
    simp [escapeChar]
  · unfold escapeChar
    split_ifs
    all_goals simp [hc, hhex]

/-- A short escape is read as the character it stands for. -/
theorem basicString?_escape {c e : Char} {tail rest : List Char}
    (h : escape? (e :: tail) = some (c, rest)) (fuel : Nat) (read : List Char) :
    basicString? (fuel + 1) read ('\\' :: e :: tail) = basicString? fuel (c :: read) rest := by
  rw [basicString?, h]
  rfl

theorem hexCharacter?_hex {n : Nat} (hn : n < 0xD800) (tail : List Char) :
    hexCharacter? 4 (Text.Quoted.hex 4 n ++ tail) = some (Char.ofNat n, tail) := by
  have hlength : (Text.Quoted.hex 4 n).length = 4 := Text.length_hex (by omega) (by omega)
  have hall : (Text.Quoted.hex 4 n).all (Text.isDigitOf 16) = true :=
    List.all_eq_true.mpr fun _ => Text.isDigitOf_of_mem_hex
  have htake : (Text.Quoted.hex 4 n ++ tail).take 4 = Text.Quoted.hex 4 n :=
    List.take_left' hlength
  have hdrop : (Text.Quoted.hex 4 n ++ tail).drop 4 = tail := List.drop_left' hlength
  have hvalid : Nat.isValidChar n := .inl hn
  rw [hexCharacter?, htake, hdrop, Text.ofDigits_hex]
  simp [hlength, hall, hvalid]

/-- What is written for a character is read as that character, whatever follows. -/
theorem basicString?_escapeChar (c : Char) (fuel : Nat) (read tail : List Char) :
    basicString? (fuel + 1) read (escapeChar c ++ tail) = basicString? fuel (c :: read) tail := by
  have hself : Char.ofNat c.toNat = c := Char.ofNat_toNat c
  unfold escapeChar
  split_ifs with hmark hline hreturn hback hfeed hcontrol
  · rcases (by simpa using hmark : c = '"' ∨ c = '\\') with rfl | rfl
    · exact basicString?_escape rfl fuel read
    · exact basicString?_escape rfl fuel read
  · rw [beq_iff_eq.mp hline]
    exact basicString?_escape rfl fuel read
  · rw [beq_iff_eq.mp hreturn]
    exact basicString?_escape rfl fuel read
  · rw [← hself, beq_iff_eq.mp hback]
    exact basicString?_escape rfl fuel read
  · rw [← hself, beq_iff_eq.mp hfeed]
    exact basicString?_escape rfl fuel read
  · -- Control characters have small codes, so four digits are enough and stand for a character.
    simp only [bne_iff_ne, ne_eq, Bool.and_eq_true, Bool.or_eq_true, decide_eq_true_eq,
      beq_iff_eq] at hcontrol
    refine basicString?_escape ?_ fuel read
    show hexCharacter? 4 (Text.Quoted.hex 4 c.toNat ++ tail) = some (c, tail)
    rw [hexCharacter?_hex (by omega), hself]
  · simp only [Bool.or_eq_true, beq_iff_eq, not_or] at hmark
    have hlegal : isIllegalInLine c = false := by
      rw [isIllegalInLine, Bool.and_comm]
      exact Bool.eq_false_iff.mpr hcontrol
    show basicString? (fuel + 1) read (c :: tail) = _
    rw [basicString?.eq_5 read fuel c tail hmark.1 hmark.2, hlegal]
    rfl

/-- A string is read back behind its first quote. -/
theorem basicString?_chars (chars : List Char) {fuel : Nat} (hfuel : chars.length < fuel)
    (read rest : List Char) :
    basicString? fuel read (chars.flatMap escapeChar ++ '"' :: rest) =
      some (String.ofList (read.reverse ++ chars), rest) := by
  induction chars generalizing fuel read with
  | nil =>
      obtain ⟨fuel, rfl⟩ : ∃ less, fuel = less + 1 := ⟨fuel - 1, by simp at hfuel; omega⟩
      rw [List.append_nil]
      rfl
  | cons c chars ih =>
      rw [List.length_cons] at hfuel
      obtain ⟨fuel, rfl⟩ : ∃ less, fuel = less + 1 := ⟨fuel - 1, by omega⟩
      rw [List.flatMap_cons, List.append_assoc, basicString?_escapeChar, ih (by omega),
        List.reverse_cons, List.append_assoc, List.singleton_append]

theorem escapeChar_ne_nil (c : Char) : escapeChar c ≠ [] := by
  unfold escapeChar
  split_ifs
  all_goals exact List.cons_ne_nil _ _

theorem head?_escapeChar_ne (c : Char) : (escapeChar c).head? ≠ some '"' := by
  by_cases hc : c = '"'
  · subst hc
    decide
  · unfold escapeChar
    split_ifs
    all_goals simp [hc]

theorem length_le_flatMap_escapeChar (chars : List Char) :
    chars.length ≤ (chars.flatMap escapeChar).length := by
  induction chars with
  | nil => exact Nat.le_refl _
  | cons c chars ih =>
      have := List.length_pos_iff.mpr (escapeChar_ne_nil c)
      rw [List.flatMap_cons, List.length_append, List.length_cons]
      omega

theorem toList_stringText (s : String) :
    (stringText s).toList = '"' :: s.toList.flatMap escapeChar ++ ['"'] := by
  rw [stringText, String.toList_ofList]

theorem clean_stringText (s : String) : Clean (stringText s).toList := by
  rw [toList_stringText]
  simp only [clean_append, clean_cons, clean_nil, and_true]
  refine ⟨⟨by decide, fun hmem => ?_⟩, by decide⟩
  obtain ⟨c, -, hc⟩ := List.mem_flatMap.mp hmem
  exact clean_escapeChar c hc

/-- A string is read back; it is none of several lines, since its second quote ends it and no third
one follows. -/
theorem string?_stringText (s : String) {rest : List Char} (hrest : rest.head? ≠ some '"') :
    string? ((stringText s).toList ++ rest) = some (s, rest) := by
  have hstring : ∀ body, (∀ tail, body ≠ '"' :: '"' :: tail) →
      string? ('"' :: body) = basicString? (body.length + 1) [] body := by
    intro body hbody
    rw [string?.eq_def]
    split
    · rename_i tail heq
      cases heq
      exact absurd rfl (hbody tail)
    · rename_i heq
      cases heq
    · rename_i heq
      cases heq
      rfl
    · rename_i heq
      cases heq
    · rename_i hnot _
      exact absurd rfl (hnot body)
  have hchars := length_le_flatMap_escapeChar s.toList
  rw [toList_stringText, List.append_assoc]
  show string? ('"' :: (s.toList.flatMap escapeChar ++ '"' :: rest)) = _
  rw [hstring, basicString?_chars, List.reverse_nil, List.nil_append, String.ofList_toList]
  · rw [List.length_append]
    omega
  · -- Two quotes in a row would mean that the text is empty and followed by a quote.
    intro tail heq
    cases hs : s.toList with
    | nil =>
        rw [hs] at heq
        cases heq
        exact hrest rfl
    | cons c chars =>
        rw [hs, List.flatMap_cons, List.append_assoc] at heq
        have hhead := congrArg List.head? heq
        rw [List.head?_append_of_ne_nil _ (escapeChar_ne_nil c)] at hhead
        exact head?_escapeChar_ne c hhead

/-! ## Numbers -/

/-- What stands behind a value: a comma, a blank or the end of the line. -/
def Ends (rest : List Char) : Prop :=
  ∀ c ∈ rest.head?, c = ',' ∨ c = ' ' ∨ c = '\n'

theorem ends_cons {c : Char} (h : c = ',' ∨ c = ' ' ∨ c = '\n') (rest : List Char) :
    Ends (c :: rest) := by
  intro d hd
  cases hd
  exact h

/-- Behind a value stands no character but the three. -/
theorem Ends.head_ne {rest : List Char} (h : Ends rest) {d : Char} (hcomma : d ≠ ',')
    (hblank : d ≠ ' ') (hline : d ≠ '\n') : rest.head? ≠ some d := by
  intro heq
  rcases h d heq with rfl | rfl | rfl
  · exact hcomma rfl
  · exact hblank rfl
  · exact hline rfl

theorem Ends.isDigit_eq_false {c : Char} {rest : List Char} (h : Ends (c :: rest)) :
    c.isDigit = false := by
  rcases h c rfl with rfl | rfl | rfl
  all_goals decide

theorem digitsRest_append {digits rest : List Char} (hdigits : ∀ c ∈ digits, c.isDigit = true)
    (hrest : Ends rest) (read : List Char) :
    digitsRest Char.isDigit read (digits ++ rest) = (read.reverse ++ digits, rest) := by
  induction digits generalizing read with
  | nil =>
      rw [List.nil_append, List.append_nil]
      cases rest with
      | nil => rfl
      | cons c rest =>
          rw [digitsRest.eq_2, hrest.isDigit_eq_false]
          · rfl
          · rintro _ _ rfl
            exact absurd rfl (hrest.head_ne (d := '_') (by decide) (by decide) (by decide))
  | cons c digits ih =>
      have hc : c.isDigit = true := hdigits c List.mem_cons_self
      rw [List.cons_append, digitsRest.eq_2, if_pos hc,
        ih fun d hd => hdigits d (List.mem_cons_of_mem _ hd), List.reverse_cons, List.append_assoc,
        List.singleton_append]
      rintro _ _ rfl
      exact absurd hc (by decide)

theorem wholePart?_decimals (n : Nat) {rest : List Char} (hrest : Ends rest) :
    wholePart? (Text.decimals n ++ rest) = some (Text.decimals n, rest) := by
  by_cases hn : 0 < n
  · have hdigits : ∀ c ∈ Text.decimals n, c.isDigit = true := fun _ => Text.isDigit_of_mem_decimals
    have hzero := Text.head?_decimals_ne_zero hn
    obtain ⟨c, cs, hcs⟩ := List.exists_cons_of_ne_nil (Text.decimals_ne_nil n)
    rw [hcs] at hzero hdigits ⊢
    obtain ⟨hc, hcs'⟩ := List.forall_mem_cons.mp hdigits
    rw [List.cons_append, wholePart?.eq_2, digits?, if_pos hc, digitsRest_append hcs' hrest]
    · rfl
    · rintro _ ⟨⟩
      exact hzero rfl
  · rw [Nat.eq_zero_of_not_pos hn]
    rfl

theorem fractionPart_eq {rest : List Char} (hrest : Ends rest) :
    fractionPart rest = ([], rest) := by
  unfold fractionPart
  split
  · exact absurd rfl (hrest.head_ne (d := '.') (by decide) (by decide) (by decide))
  · rfl

theorem exponentPart_eq {rest : List Char} (hrest : Ends rest) :
    exponentPart rest = (none, rest) := by
  have hlower := hrest.head_ne (d := 'e') (by decide) (by decide) (by decide)
  have hupper := hrest.head_ne (d := 'E') (by decide) (by decide) (by decide)
  cases rest with
  | nil => rfl
  | cons c rest =>
      unfold exponentPart
      split
      all_goals simp_all

theorem unsigned_decimals (negative : Bool) {n : Nat}
    (hlength : (Text.decimals n).length ≤ Text.mostDigits) {rest : List Char}
    (hrest : Ends rest) :
    unsigned negative (Text.decimals n ++ rest) =
      .ok (.int (if negative then -(n : Int) else n), rest) := by
  unfold unsigned
  rw [wholePart?_decimals n hrest]
  simp only [present, bind, Except.bind, fractionPart_eq hrest, exponentPart_eq hrest,
    List.isEmpty_nil, Option.isNone_none, Bool.and_self, if_true, Nat.not_lt.mpr hlength, if_false,
    Text.ofDigits_decimals]
  rfl

/-! A number is no date and no time: behind its digits stands neither a minus sign nor a colon. -/

/-- Behind some of the digits of a number stands another digit or its end. -/
theorem head?_drop_ne {digits rest : List Char} (hdigits : ∀ c ∈ digits, c.isDigit = true)
    (hrest : Ends rest) {d : Char} (hd : d.isDigit = false) (hend : rest.head? ≠ some d)
    {count : Nat} (hcount : ((digits ++ rest).take count).all Char.isDigit = true) :
    ((digits ++ rest).drop count).head? ≠ some d := by
  induction digits generalizing count with
  | nil =>
      cases count with
      | zero => exact hend
      | succ count =>
          cases rest with
          | nil => exact hend
          | cons c rest =>
              rw [List.nil_append, List.take_succ_cons, List.all_cons,
                hrest.isDigit_eq_false] at hcount
              cases hcount
  | cons c digits ih =>
      obtain ⟨hc, hdigits'⟩ := List.forall_mem_cons.mp hdigits
      cases count with
      | zero =>
          rintro ⟨⟩
          rw [hc] at hd
          cases hd
      | succ count =>
          rw [List.cons_append, List.take_succ_cons, List.all_cons, Bool.and_eq_true] at hcount
          exact ih hdigits' hcount.2

theorem mark?_eq_none {d : Char} {cs : List Char} (h : cs.head? ≠ some d) : mark? d cs = none := by
  cases cs with
  | nil => rfl
  | cons c cs =>
      rw [mark?, if_neg]
      intro heq
      exact h (congrArg some (beq_iff_eq.mp heq))

theorem fixed?_eq_some {count least most n : Nat} {cs rest : List Char}
    (h : fixed? count least most cs = some (n, rest)) :
    (cs.take count).all Char.isDigit = true ∧ rest = cs.drop count := by
  unfold fixed? at h
  simp only [Option.ite_none_right_eq_some, Option.some.injEq, Prod.mk.injEq, Bool.and_eq_true] at h
  exact ⟨h.1.1.1.2, h.2.2.symm⟩

section Moment

variable {digits rest : List Char} (hdigits : ∀ c ∈ digits, c.isDigit = true) (hrest : Ends rest)

include hdigits hrest

/-- A number of fixed length is not followed by a mark. -/
theorem fixed?_bind_mark? (count least most : Nat) {d : Char} (hd : d.isDigit = false)
    (hend : rest.head? ≠ some d) {n : Nat} {behind : List Char}
    (h : fixed? count least most (digits ++ rest) = some (n, behind)) : mark? d behind = none := by
  obtain ⟨hall, rfl⟩ := fixed?_eq_some h
  exact mark?_eq_none (head?_drop_ne hdigits hrest hd hend hall)

theorem day?_digits : day? (digits ++ rest) = none := by
  unfold day?
  cases h : fixed? 4 0 9999 (digits ++ rest) with
  | none => rfl
  | some found =>
      have hmark := fixed?_bind_mark? hdigits hrest 4 0 9999 (d := '-') (by decide)
        (hrest.head_ne (by decide) (by decide) (by decide)) h
      simp only [Option.bind_eq_bind, Option.bind_some, hmark, Option.bind_none]

theorem clock?_digits : clock? (digits ++ rest) = none := by
  unfold clock?
  cases h : fixed? 2 0 23 (digits ++ rest) with
  | none => rfl
  | some found =>
      have hmark := fixed?_bind_mark? hdigits hrest 2 0 23 (d := ':') (by decide)
        (hrest.head_ne (by decide) (by decide) (by decide)) h
      simp only [Option.bind_eq_bind, Option.bind_some, hmark, Option.bind_none]

theorem moment_digits : moment (digits ++ rest) = .none := by
  rw [moment, day?_digits hdigits hrest, clock?_digits hdigits hrest]

end Moment

theorem moment_minus (cs : List Char) : moment ('-' :: cs) = .none := by
  have hfixed : ∀ count least most, fixed? (count + 1) least most ('-' :: cs) = none := by
    intro count least most
    rw [fixed?, if_neg]
    rw [List.take_succ_cons, List.all_cons, show ('-').isDigit = false by decide]
    simp
  have hday : day? ('-' :: cs) = none := by
    rw [day?, hfixed 3 0 9999]
    rfl
  have hclock : clock? ('-' :: cs) = none := by
    rw [clock?, hfixed 1 0 23]
    rfl
  rw [moment, hday, hclock]

theorem marked?_decimals (n : Nat) {rest : List Char} (hrest : Ends rest) :
    marked? (Text.decimals n ++ rest) = none := by
  have hmark : ∀ d tail, d = 'x' ∨ d = 'b' ∨ d = 'o' →
      Text.decimals n ++ rest ≠ '0' :: d :: tail := by
    intro d tail hd heq
    by_cases hn : 0 < n
    · have hhead := congrArg List.head? heq
      rw [List.head?_append_of_ne_nil _ (Text.decimals_ne_nil n)] at hhead
      exact Text.head?_decimals_ne_zero hn hhead
    · rw [Nat.eq_zero_of_not_pos hn, Text.decimals_zero] at heq
      cases heq
      rcases hd with rfl | rfl | rfl
      all_goals exact hrest.head_ne (by decide) (by decide) (by decide) rfl
  unfold marked?
  split
  · rename_i heq
    exact absurd heq (hmark 'x' _ (by decide))
  · rename_i heq
    exact absurd heq (hmark 'b' _ (by decide))
  · rename_i heq
    exact absurd heq (hmark 'o' _ (by decide))
  · rfl

theorem specialNumber?_digit {c : Char} (hc : c.isDigit = true) (cs : List Char) :
    specialNumber? (c :: cs) = none := by
  unfold specialNumber?
  split
  all_goals first
    | rfl
    | (rename_i heq; cases heq; exact absurd hc (by decide))

theorem specialNumber?_minus {c : Char} (hc : c.isDigit = true) (cs : List Char) :
    specialNumber? ('-' :: c :: cs) = none := by
  have hinfinite : c ≠ 'i' := by
    rintro rfl
    exact absurd hc (by decide)
  have hundefined : c ≠ 'n' := by
    rintro rfl
    exact absurd hc (by decide)
  simp [specialNumber?, hinfinite, hundefined]

theorem decimal_digit {c : Char} (hc : c.isDigit = true) (cs : List Char) :
    decimal (c :: cs) = unsigned false (c :: cs) := by
  unfold decimal
  split
  all_goals first
    | rfl
    | (rename_i heq; cases heq; exact absurd hc (by decide))

theorem moment_int (n : Int) {rest : List Char} (hrest : Ends rest) :
    moment ((toString n).toList ++ rest) = .none := by
  rw [Text.toList_toString_int]
  split
  · exact moment_minus _
  · exact moment_digits (fun _ => Text.isDigit_of_mem_decimals) hrest

/-- An integer that is not oversized is read back. -/
theorem number_int {n : Int} (hn : Text.isOversized n = false) {rest : List Char}
    (hrest : Ends rest) : number ((toString n).toList ++ rest) = .ok (.int n, rest) := by
  have hlength : (Text.decimals n.natAbs).length ≤ Text.mostDigits :=
    (Text.length_decimals_le_iff (by decide)).mpr (of_decide_eq_false hn)
  have hmarked := marked?_decimals n.natAbs hrest
  have hread := fun negative => unsigned_decimals negative hlength hrest
  obtain ⟨c, cs, hcs⟩ := List.exists_cons_of_ne_nil (Text.decimals_ne_nil n.natAbs)
  have hc : c.isDigit = true := Text.isDigit_of_mem_decimals (hcs ▸ List.mem_cons_self)
  rw [Text.toList_toString_int]
  rw [hcs, List.cons_append] at hmarked hread
  split
  · rw [hcs, List.cons_append, List.cons_append, number,
      show marked? ('-' :: c :: (cs ++ rest)) = none from rfl, specialNumber?_minus hc]
    refine (hread true).trans ?_
    rw [if_pos rfl, show -(n.natAbs : Int) = n by omega]
  · rw [hcs, List.cons_append, number, hmarked, specialNumber?_digit hc]
    refine (decimal_digit hc _).trans ((hread false).trans ?_)
    rw [if_neg (by decide), show (n.natAbs : Int) = n by omega]

end Rubric.Toml
