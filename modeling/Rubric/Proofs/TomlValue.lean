import Rubric.Proofs.Reading
import Rubric.Proofs.TomlLexeme
import Rubric.Toml.Reader

/-!
# TOML values read back

What is written on the right of an assignment is read as the value it was written for. A scalar is a
truth value, an integer that is not oversized or a text. A row is a table of scalars. Scalars, rows
and lists of rows are read up to what follows them (`reads_scalar`, `reads_row`, `reads_rows`).
-/

namespace Rubric.Toml

/-! ## Keys -/

def isBare (key : String) : Bool :=
  !key.isEmpty && key.toList.all isBareKey

def Bare (key : String) : Prop :=
  isBare key = true

theorem keyText_bare {key : String} (h : Bare key) : keyText key = key :=
  if_pos h

theorem Bare.ne_empty {key : String} (h : Bare key) : key ≠ "" := by
  rintro rfl
  cases h

theorem Bare.isBareKey_of_mem {key : String} (h : Bare key) :
    ∀ c ∈ key.toList, isBareKey c = true :=
  List.all_eq_true.mp (Bool.and_eq_true_iff.mp h).2

theorem Bare.clean {key : String} (h : Bare key) : Clean key.toList :=
  clean_of_forall h.isBareKey_of_mem (by decide)

theorem Bare.exists_cons {key : String} (h : Bare key) :
    ∃ c cs, key.toList = c :: cs ∧ isBareKey c = true := by
  obtain ⟨c, cs, hcs⟩ := List.exists_cons_of_ne_nil (mt String.toList_eq_nil_iff.mp h.ne_empty)
  exact ⟨c, cs, hcs, h.isBareKey_of_mem c (hcs ▸ List.mem_cons_self)⟩

/-- A bare key is read up to what can belong to no key. -/
theorem key?_bare {key : String} (h : Bare key) {rest : List Char}
    (hbare : ∀ c ∈ rest.head?, isBareKey c = false) (hdot : (skipBlanks rest).head? ≠ some '.') :
    key? (key.toList ++ rest) = some ([key], skipBlanks rest) := by
  have hpart : keyPart? (key.toList ++ rest) = some (key, rest) := by
    obtain ⟨c, cs, hcs, hc⟩ := h.exists_cons
    unfold keyPart?
    split
    · rename_i heq
      rw [hcs] at heq
      cases heq
      exact absurd hc (by decide)
    · rename_i heq
      rw [hcs] at heq
      cases heq
      exact absurd hc (by decide)
    · rw [Text.takeWhile_run h.isBareKey_of_mem hbare, Text.dropWhile_run h.isBareKey_of_mem hbare]
      simp only [String.ofList_toList]
      rw [if_neg]
      simpa using h.ne_empty
  rw [key?, hpart]
  simp only [Option.bind_eq_bind, Option.bind_some, keyRest?]
  split
  · rename_i heq
    rw [heq] at hdot
    exact absurd rfl hdot
  · rfl

theorem key?_assignment {key : String} (h : Bare key) (rest : List Char) :
    key? (key.toList ++ ' ' :: '=' :: rest) = some ([key], '=' :: rest) := by
  refine key?_bare h ?_ ?_
  · rintro c ⟨⟩
    decide
  · show some '=' ≠ some '.'
    decide

/-! ## Values -/

/-- A character that starts a value: neither a blank nor a comment nor the end of a list. -/
def Starts (c : Char) : Prop :=
  c ≠ ' ' ∧ c ≠ '\t' ∧ c ≠ '\n' ∧ c ≠ '#' ∧ c ≠ ']'

instance : DecidablePred Starts :=
  fun c => inferInstanceAs (Decidable (c ≠ ' ' ∧ _))

/-- A clean text starts as a value and is read as a given one, with some room, up to what follows
it. -/
structure Reads (room : Nat) (item : Value) (text : List Char) : Prop where
  clean : Clean text
  starts : ∃ c tail, text = c :: tail ∧ Starts c
  back : ∀ fuel rest, Ends rest → text.length ≤ fuel →
    value fuel room (text ++ rest) = .ok (item, rest)

theorem Reads.skipBlanks_eq {room : Nat} {item : Value} {text : List Char}
    (h : Reads room item text) (rest : List Char) :
    skipBlanks (text ++ rest) = text ++ rest := by
  obtain ⟨c, tail, rfl, hspace, htab, -⟩ := h.starts
  exact List.dropWhile_cons_of_neg (by simp [hspace, htab])

/-! ### Scalars -/

/-- A truth value, an integer that is not oversized, or a text. -/
inductive Scalar : Value → Prop
  | bool (b : Bool) : Scalar (.bool b)
  | int {n : Int} (fits : Text.isOversized n = false) : Scalar (.int n)
  | string (s : String) : Scalar (.string s)

theorem Scalar.isCompound_eq_false {item : Value} (h : Scalar item) : isCompound item = false := by
  cases h with
  | _ => rfl

theorem Scalar.hasSections_eq_false {item : Value} (h : Scalar item) :
    hasSections item = false := by
  cases h with
  | _ => rfl

/-- What starts neither a string nor a list nor a table is a scalar. -/
theorem value_scalar {c : Char} (hquote : c ≠ '"') (hapostrophe : c ≠ '\'') (hlist : c ≠ '[')
    (htable : c ≠ '\x7b') (fuel room : Nat) (cs : List Char) :
    value (fuel + 1) room (c :: cs) = scalar (c :: cs) := by
  rw [value]
  all_goals
    rintro _ ⟨⟩
    contradiction

/-- What is neither a truth value nor a date or time is a number. -/
theorem scalar_number {c : Char} (htrue : c ≠ 't') (hfalse : c ≠ 'f') {cs : List Char}
    (hmoment : moment (c :: cs) = .none) : scalar (c :: cs) = number (c :: cs) := by
  unfold scalar
  split
  · rename_i heq
    cases heq
    exact absurd rfl htrue
  · rename_i heq
    cases heq
    exact absurd rfl hfalse
  · rw [hmoment]

theorem value_string (s : String) (fuel room : Nat) {rest : List Char} (hrest : Ends rest) :
    value (fuel + 1) room ((stringText s).toList ++ rest) = .ok (.string s, rest) := by
  have hread := string?_stringText s (hrest.head_ne (d := '"') (by decide) (by decide) (by decide))
  rw [toList_stringText] at hread ⊢
  rw [List.append_assoc, List.cons_append] at hread ⊢
  rw [value, hread]
  rfl

theorem exists_fuel {text : List Char} {fuel : Nat} (htext : text ≠ [])
    (hfuel : text.length ≤ fuel) : ∃ less, fuel = less + 1 := by
  have := List.length_pos_iff.mpr htext
  exact ⟨fuel - 1, by omega⟩

theorem reads_scalar {item : Value} (h : Scalar item) (room level : Nat) :
    Reads room item (inlineText level item).toList := by
  cases h with
  | bool b =>
      rw [inlineText]
      cases b with
      | true =>
          refine ⟨by simp, ⟨'t', ['r', 'u', 'e'], rfl, by decide⟩, fun fuel rest _ hfuel => ?_⟩
          obtain ⟨fuel, rfl⟩ := exists_fuel (List.cons_ne_nil _ _) hfuel
          exact value_scalar (by decide) (by decide) (by decide) (by decide) fuel room _
      | false =>
          refine ⟨by simp, ⟨'f', ['a', 'l', 's', 'e'], rfl, by decide⟩, fun fuel rest _ hfuel => ?_⟩
          obtain ⟨fuel, rfl⟩ := exists_fuel (List.cons_ne_nil _ _) hfuel
          exact value_scalar (by decide) (by decide) (by decide) (by decide) fuel room _
  | @int n fits =>
      obtain ⟨c, cs, hcs, hc⟩ := Text.exists_toString_int_eq_cons n
      -- A number begins with a digit or a minus, and nothing else does.
      have hne : ∀ d, d ≠ '-' → d.isDigit = false → c ≠ d := by
        rintro d hminus hdigit rfl
        rcases hc with hc | hc
        · exact hminus hc
        · rw [hc] at hdigit
          cases hdigit
      have hstart : Starts c := ⟨hne _ (by decide) (by decide), hne _ (by decide) (by decide),
        hne _ (by decide) (by decide), hne _ (by decide) (by decide), hne _ (by decide) (by decide)⟩
      rw [inlineText]
      refine ⟨?_, ⟨c, cs, hcs, hstart⟩, fun fuel rest hrest hfuel => ?_⟩
      · have hclean : Clean (Text.decimals n.natAbs) :=
          clean_of_forall (fun _ => Text.isDigit_of_mem_decimals) (by decide)
        rw [Text.toList_toString_int]
        split
        · exact clean_cons.mpr ⟨by decide, hclean⟩
        · exact hclean
      · have hmoment := moment_int n hrest
        have hnumber := number_int fits hrest
        rw [hcs] at hmoment hnumber hfuel ⊢
        obtain ⟨fuel, rfl⟩ := exists_fuel (List.cons_ne_nil _ _) hfuel
        have hvalue := value_scalar (hne '"' (by decide) (by decide))
          (hne '\'' (by decide) (by decide)) (hne '[' (by decide) (by decide))
          (hne '\x7b' (by decide) (by decide)) fuel room (cs ++ rest)
        have hscalar := scalar_number (hne 't' (by decide) (by decide))
          (hne 'f' (by decide) (by decide)) hmoment
        exact hvalue.trans (hscalar.trans hnumber)
  | string s =>
      have hlist := toList_stringText s
      rw [inlineText]
      refine ⟨clean_stringText s, ⟨'"', _, hlist, by decide⟩, fun fuel rest hrest hfuel => ?_⟩
      obtain ⟨fuel, rfl⟩ := exists_fuel (hlist ▸ List.cons_ne_nil _ _) hfuel
      exact value_string s fuel room hrest

/-! ### Rows -/

/-- A table of scalars under distinct bare keys. -/
structure Row (table : Members) : Prop where
  scalars : ∀ member ∈ table, Scalar member.2
  bare : ∀ member ∈ table, Bare member.1
  distinct : (table.map Prod.fst).Nodup

theorem Row.of_cons {key : String} {item : Value} {table : Members}
    (h : Row ((key, item) :: table)) : Scalar item ∧ Bare key ∧ Row table := by
  obtain ⟨hitem, hscalars⟩ := List.forall_mem_cons.mp h.scalars
  obtain ⟨hkey, hbare⟩ := List.forall_mem_cons.mp h.bare
  exact ⟨hitem, hkey, hscalars, hbare, (List.nodup_cons.mp h.distinct).2⟩

theorem addMember_eq_some {table : Members} {key : String} (h : key ∉ table.map Prod.fst)
    (item : Value) : addMember key item table = some (table ++ [(key, item)]) := by
  rw [addMember, Members.has_eq_false_iff.mpr h, Members.insert_eq_append h]
  rfl

/-- How the reading of a row goes on behind a member. -/
def goOn (fuel room : Nat) (read : Members) (cs : List Char) : Except Fault (Members × List Char) :=
  match skipBlanks cs with
  | '\x7d' :: rest => .ok (read, rest)
  | ',' :: rest => members fuel room [] read (skipBlanks rest)
  | _ => .error .malformed

theorem members_member {key : String} (hkey : Bare key) {item : Value} (hitem : Scalar item)
    (fuel room : Nat) (hfuel : (inlineText 0 item).toList.length ≤ fuel) (read : Members)
    (hnew : key ∉ read.map Prod.fst) {rest : List Char} (hrest : Ends rest) :
    members (fuel + 1) room [] read
      (key.toList ++ ' ' :: '=' :: ' ' :: ((inlineText 0 item).toList ++ rest)) =
      goOn fuel room (read ++ [(key, item)]) rest := by
  have hreads := reads_scalar hitem room 0
  have hblank : skipBlanks (' ' :: ((inlineText 0 item).toList ++ rest)) =
      (inlineText 0 item).toList ++ rest := hreads.skipBlanks_eq rest
  have hadd : alter false (addMember ([key].getLastD "") item) [key].dropLast read =
      some (read ++ [(key, item)]) := addMember_eq_some hnew item
  rw [members, key?_assignment hkey]
  simp only [present, bind, Except.bind, mark?, beq_self_eq_true, if_true, hblank,
    hreads.back fuel rest hrest hfuel, hadd, hitem.isCompound_eq_false, Bool.false_eq_true,
    if_false]
  rfl

theorem toList_membersText_cons {key : String} (hkey : Bare key) (item : Value) (table : Members) :
    (membersText ((key, item) :: table)).toList = ',' :: ' ' :: (key.toList ++ ' ' :: '=' :: ' ' ::
      ((inlineText 0 item).toList ++ (membersText table).toList)) := by
  rw [membersText, keyText_bare hkey]
  simp [String.toList_append]

theorem clean_membersText {table : Members} (hrow : Row table) :
    Clean (membersText table).toList := by
  induction table with
  | nil =>
      rw [membersText]
      exact clean_nil
  | cons member table ih =>
      obtain ⟨key, item⟩ := member
      obtain ⟨hitem, hkey, htable⟩ := hrow.of_cons
      rw [toList_membersText_cons hkey]
      simp [hkey.clean, (reads_scalar hitem 0 0).clean, ih htable]

theorem skipBlanks_bare {key : String} (hkey : Bare key) (rest : List Char) :
    skipBlanks (key.toList ++ rest) = key.toList ++ rest := by
  obtain ⟨c, cs, hcs, hc⟩ := hkey.exists_cons
  rw [hcs]
  refine List.dropWhile_cons_of_neg ?_
  simp only [Bool.or_eq_true, beq_iff_eq]
  rintro (rfl | rfl)
  · exact absurd hc (by decide)
  · exact absurd hc (by decide)

theorem ends_membersText {table : Members} (hrow : Row table) (rest : List Char) :
    Ends ((membersText table).toList ++ ' ' :: rest) := by
  cases table with
  | nil =>
      rw [membersText]
      exact ends_cons (by decide) _
  | cons member table =>
      rw [toList_membersText_cons hrow.of_cons.2.1]
      exact ends_cons (by decide) _

/-- The members of a row are read behind those read before. -/
theorem goOn_membersText {table : Members} (hrow : Row table) (fuel room : Nat)
    (read : Members) (hnew : ((read ++ table).map Prod.fst).Nodup)
    (hfuel : (membersText table).toList.length ≤ fuel) (rest : List Char) :
    goOn fuel room read ((membersText table).toList ++ ' ' :: '\x7d' :: rest) =
      .ok (read ++ table, rest) := by
  induction table generalizing fuel read with
  | nil =>
      rw [membersText, List.append_nil]
      rfl
  | cons member table ih =>
      obtain ⟨key, item⟩ := member
      obtain ⟨hitem, hkey, htable⟩ := hrow.of_cons
      have hfresh : key ∉ read.map Prod.fst := Members.not_mem_of_nodup hnew
      rw [toList_membersText_cons hkey] at hfuel ⊢
      simp only [List.length_cons, List.length_append] at hfuel
      obtain ⟨fuel, rfl⟩ : ∃ less, fuel = less + 1 := ⟨fuel - 1, by omega⟩
      have hkeys : ((read ++ [(key, item)] ++ table).map Prod.fst).Nodup := by
        simpa using hnew
      have hgo := ih htable fuel _ hkeys (by omega)
      have hmember := members_member hkey hitem fuel room (by omega) read hfresh
        (ends_membersText htable ('\x7d' :: rest))
      simp only [List.append_assoc, List.cons_append] at hmember ⊢
      show members (fuel + 1) room [] read (skipBlanks (key.toList ++ _)) = _
      rw [skipBlanks_bare hkey, hmember, hgo, List.append_assoc, List.singleton_append]

theorem toList_inlineText_row {key : String} (hkey : Bare key) (item : Value) (table : Members)
    (level : Nat) : (inlineText level (.object ((key, item) :: table))).toList =
      '\x7b' :: ' ' :: (key.toList ++ ' ' :: '=' :: ' ' :: ((inlineText 0 item).toList ++
        ((membersText table).toList ++ [' ', '\x7d']))) := by
  rw [inlineText, keyText_bare hkey]
  simp [String.toList_append]

theorem value_table {key : String} (hkey : Bare key) {fuel room : Nat}
    (hroom : roomOfTable ≤ room) {cs rest : List Char} {table : Members}
    (h : members fuel (room - roomOfTable) [] [] (key.toList ++ cs) = .ok (table, rest)) :
    value (fuel + 1) room ('\x7b' :: ' ' :: (key.toList ++ cs)) = .ok (.object table, rest) := by
  obtain ⟨c, tail, hcs, hc⟩ := hkey.exists_cons
  have hskip : skipBlanks (' ' :: (key.toList ++ cs)) = c :: (tail ++ cs) :=
    (skipBlanks_bare hkey cs).trans (congrArg (· ++ cs) hcs)
  rw [hcs, List.cons_append] at h
  rw [value, hskip]
  split
  · rename_i heq
    cases heq
    exact absurd hc (by decide)
  · rw [take, if_pos hroom]
    show (members fuel (room - roomOfTable) [] [] (c :: (tail ++ cs))).bind _ = _
    rw [h]
    rfl

theorem reads_row {table : Members} (hrow : Row table) {room : Nat} (hroom : roomOfTable ≤ room)
    (level : Nat) : Reads room (.object table) (inlineText level (.object table)).toList := by
  cases table with
  | nil =>
      rw [inlineText]
      refine ⟨by simp, ⟨'\x7b', ['\x7d'], rfl, by decide⟩, fun fuel rest _ hfuel => ?_⟩
      obtain ⟨fuel, rfl⟩ := exists_fuel (List.cons_ne_nil _ _) hfuel
      rfl
  | cons member table =>
      obtain ⟨key, item⟩ := member
      obtain ⟨hitem, hkey, htable⟩ := hrow.of_cons
      rw [toList_inlineText_row hkey]
      refine ⟨?_, ⟨'\x7b', _, rfl, by decide⟩, fun fuel rest _ hfuel => ?_⟩
      · simp [hkey.clean, (reads_scalar hitem room 0).clean, clean_membersText htable]
      simp only [List.length_cons, List.length_append] at hfuel
      obtain ⟨fuel, rfl⟩ : ∃ less, fuel = less + 1 + 1 := ⟨fuel - 2, by omega⟩
      have hmember := members_member hkey hitem fuel (room - roomOfTable) (by omega) []
        List.not_mem_nil (ends_membersText htable ('\x7d' :: rest))
      have hgo := goOn_membersText htable fuel (room - roomOfTable) [(key, item)] hrow.distinct
        (by omega) rest
      rw [List.nil_append, hgo] at hmember
      have htable := value_table hkey hroom hmember
      simpa only [List.append_assoc, List.cons_append, List.nil_append] using htable

/-! ### Lists of rows -/

theorem skipGap?_eq_some (blanks : List Char) (hblanks : ∀ c ∈ blanks, c = ' ' ∨ c = '\n')
    {c : Char} (hc : c ≠ ' ' ∧ c ≠ '\t' ∧ c ≠ '\n' ∧ c ≠ '#') (cs : List Char) :
    skipGap? (blanks ++ c :: cs) = some (c :: cs) := by
  obtain ⟨hspace, htab, hline, hcomment⟩ := hc
  have hskip : skipBlankLines (blanks ++ c :: cs) = c :: cs := by
    rw [skipBlankLines, List.dropWhile_append_of_pos]
    · exact List.dropWhile_cons_of_neg (by simp [hspace, htab, hline])
    · intro d hd
      rcases hblanks d hd with rfl | rfl
      · rfl
      · rfl
  obtain ⟨fuel, hfuel⟩ : ∃ less, (blanks ++ c :: cs).length = less + 1 :=
    ⟨blanks.length + cs.length, by simp; omega⟩
  rw [skipGap?, hfuel, skipItemGap?, hskip]
  split
  · rename_i heq
    cases heq
    exact absurd rfl hcomment
  · rfl

/-- What each row of a list is put behind. -/
def gap : List Char := ['\n', ' ', ' ', ' ', ' ']

/-- The rows of a list, each in front of a comma, and the end of the list. -/
def rowsText : List Value → List Char
  | [] => ['\n', ']']
  | row :: rows => gap ++ (inlineText 1 row).toList ++ ',' :: rowsText rows

theorem toList_inlineText_rows (row : Value) (rows : List Value) :
    (inlineText 0 (.array (row :: rows))).toList = '[' :: rowsText (row :: rows) := by
  have hitems : ∀ rows, (itemsText 0 rows).toList ++ [',', '\n', ']'] = ',' :: rowsText rows := by
    intro rows
    induction rows with
    | nil =>
        rw [itemsText]
        rfl
    | cons row rows ih =>
        rw [itemsText, rowsText, gap]
        simp only [String.toList_append, List.append_assoc, ih]
        rfl
  rw [inlineText, rowsText, gap]
  simp only [String.toList_append, List.append_assoc]
  show '[' :: '\n' :: (_ ++ (_ ++ ((itemsText 0 rows).toList ++ [',', '\n', ']']))) = _
  rw [hitems]
  rfl

theorem clean_rowsText {rows : List Value}
    (hrows : ∀ row ∈ rows, ∃ table, row = .object table ∧ Row table) : Clean (rowsText rows) := by
  induction rows with
  | nil => simp [rowsText]
  | cons row rows ih =>
      obtain ⟨⟨table, rfl, hrow⟩, hrows'⟩ := List.forall_mem_cons.mp hrows
      simp [rowsText, gap, (reads_row hrow (Nat.le_refl _) 1).clean, ih hrows']

theorem items_row {item : Value} {text : List Char} {fuel room : Nat}
    (hreads : Reads room item text) (hfuel : text.length ≤ fuel) (read : List Value)
    (rest : List Char) :
    items (fuel + 1) room read (gap ++ text ++ ',' :: rest) =
      items fuel room (item :: read) rest := by
  have hgap : ∀ c ∈ gap, c = ' ' ∨ c = '\n' := by simp [gap]
  have hback := hreads.back fuel (',' :: rest) (ends_cons (by decide) _) hfuel
  obtain ⟨c, tail, rfl, hspace, htab, hline, hcomment, hclose⟩ := hreads.starts
  have hskip := skipGap?_eq_some gap hgap ⟨hspace, htab, hline, hcomment⟩ (tail ++ ',' :: rest)
  have hcomma := skipGap?_eq_some [] (by simp) (c := ',') (by decide) rest
  rw [List.append_assoc, List.cons_append, items, hskip]
  simp only [present, bind, Except.bind]
  split
  · rename_i heq
    cases heq
    exact absurd rfl hclose
  · rw [List.cons_append] at hback
    rw [List.nil_append] at hcomma
    simp only [hback, hcomma]

/-- A list of rows is read behind those read before. -/
theorem items_rowsText {rows : List Value}
    (hrows : ∀ row ∈ rows, ∃ table, row = .object table ∧ Row table) (fuel room : Nat)
    (hroom : roomOfTable ≤ room) (read : List Value) (hfuel : (rowsText rows).length ≤ fuel)
    (rest : List Char) :
    items fuel room read (rowsText rows ++ rest) = .ok (read.reverse ++ rows, rest) := by
  induction rows generalizing fuel read with
  | nil =>
      obtain ⟨fuel, rfl⟩ := exists_fuel (List.cons_ne_nil _ _) hfuel
      have hgap : skipGap? (rowsText [] ++ rest) = some (']' :: rest) :=
        skipGap?_eq_some ['\n'] (by simp) (by decide) rest
      rw [items, hgap, List.append_nil]
      rfl
  | cons row rows ih =>
      obtain ⟨⟨table, rfl, hrow⟩, hrows'⟩ := List.forall_mem_cons.mp hrows
      simp only [rowsText, List.length_append, List.length_cons] at hfuel
      obtain ⟨fuel, rfl⟩ : ∃ less, fuel = less + 1 := ⟨fuel - 1, by omega⟩
      rw [rowsText, List.append_assoc, List.cons_append,
        items_row (reads_row hrow hroom 1) (by omega),
        ih hrows' fuel (.object table :: read) (by omega),
        List.reverse_cons, List.append_assoc, List.singleton_append]

theorem reads_rows {rows : List Value}
    (hrows : ∀ row ∈ rows, ∃ table, row = .object table ∧ Row table) {room : Nat}
    (hroom : roomOfList + roomOfTable ≤ room) :
    Reads room (.array rows) (inlineText 0 (.array rows)).toList := by
  have htake : take roomOfList room = .ok (room - roomOfList) := if_pos (by omega)
  cases rows with
  | nil =>
      rw [inlineText]
      refine ⟨by simp, ⟨'[', [']'], rfl, by decide⟩, fun fuel rest _ hfuel => ?_⟩
      obtain ⟨fuel, rfl⟩ : ∃ less, fuel = less + 1 + 1 := ⟨fuel - 2, by
        have : 2 ≤ fuel := hfuel
        omega⟩
      have hclose := skipGap?_eq_some [] (by simp) (c := ']') (by decide) rest
      rw [List.nil_append] at hclose
      show value (fuel + 1 + 1) room ('[' :: ']' :: rest) = _
      rw [value, htake]
      simp only [bind, Except.bind, items, hclose]
      rfl
  | cons row rows =>
      rw [toList_inlineText_rows]
      refine ⟨?_, ⟨'[', _, rfl, by decide⟩, fun fuel rest _ hfuel => ?_⟩
      · exact clean_cons.mpr ⟨by decide, clean_rowsText hrows⟩
      obtain ⟨fuel, rfl⟩ := exists_fuel (List.cons_ne_nil _ _) hfuel
      have hread := items_rowsText hrows fuel (room - roomOfList) (by omega) []
        (Nat.le_of_succ_le_succ hfuel) rest
      rw [List.cons_append, value, htake]
      simp only [bind, Except.bind, hread]
      rfl

end Rubric.Toml
