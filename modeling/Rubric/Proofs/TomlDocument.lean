import Rubric.Proofs.TomlValue

/-!
# TOML documents read back

The TOML text of a sheet, which is a table of scalars and lists of rows, is read as that sheet
(`read_render`): first what is written inline, then the lists with sections of their own. `Leads`
says of a part of a document that the reader gets through it, from one kind of draft to another, and
each part of the writer has a lemma of that form. What is known of a draft on the way is said by
`Shows`.
-/

namespace Rubric.Toml

def line (member : String × Value) : List Char :=
  member.1.toList ++ ' ' :: '=' :: ' ' :: ((inlineText 0 member.2).toList ++ ['\n'])

def headline (key : String) : List Char :=
  '[' :: '[' :: (key.toList ++ [']', ']', '\n'])

/-! ## Lines -/

/-- The reader gets through a clean text: from drafts with one property to drafts with another. -/
structure Leads (text : List Char) (before after : Draft → Prop) : Prop where
  clean : Clean text
  run : ∀ draft, before draft → ∀ rest fuel, (text ++ rest).length < fuel →
    ∃ next less, after next ∧ rest.length < less ∧
      lines fuel draft (text ++ rest) = lines less next rest

namespace Leads

variable {before between after : Draft → Prop}

theorem nil : Leads [] before before where
  clean := clean_nil
  run := fun draft hdraft _ fuel hfuel => ⟨draft, fuel, hdraft, hfuel, rfl⟩

theorem mono {text : List Char} (h : Leads text before between)
    (hafter : ∀ draft, between draft → after draft) : Leads text before after where
  clean := h.clean
  run := by
    intro draft hdraft rest fuel hfuel
    obtain ⟨next, less, hnext, hrest⟩ := h.run draft hdraft rest fuel hfuel
    exact ⟨next, less, hafter next hnext, hrest⟩

theorem append {first second : List Char} (hfirst : Leads first before between)
    (hsecond : Leads second between after) : Leads (first ++ second) before after where
  clean := clean_append.mpr ⟨hfirst.clean, hsecond.clean⟩
  run := by
    intro draft hdraft rest fuel hfuel
    rw [List.append_assoc] at hfuel ⊢
    obtain ⟨middle, fuel', hmiddle, hfuel', heq⟩ := hfirst.run draft hdraft _ fuel hfuel
    obtain ⟨next, less, hnext, hless, heq'⟩ := hsecond.run middle hmiddle rest fuel' hfuel'
    exact ⟨next, less, hnext, hless, heq.trans heq'⟩

theorem emptyLine : Leads ['\n'] before before where
  clean := by simp
  run := by
    intro draft hdraft rest fuel hfuel
    obtain ⟨fuel, rfl⟩ : ∃ less, fuel = less + 1 := ⟨fuel - 1, by omega⟩
    exact ⟨draft, fuel, hdraft, by simp at hfuel; omega, rfl⟩

theorem statementLine {c : Char} {text : List Char} (hclean : Clean (c :: text))
    (hc : c ≠ ' ' ∧ c ≠ '\t' ∧ c ≠ '\n')
    (hstatement : ∀ draft, before draft → ∀ rest, ∃ next, after next ∧
      statement draft (c :: (text ++ '\n' :: rest)) = .ok (next, '\n' :: rest)) :
    Leads (c :: (text ++ ['\n'])) before after where
  clean := by
    rw [← List.cons_append]
    exact clean_append.mpr ⟨hclean, by simp⟩
  run := by
    intro draft hdraft rest fuel hfuel
    obtain ⟨fuel, rfl⟩ : ∃ less, fuel = less + 1 := ⟨fuel - 1, by omega⟩
    obtain ⟨next, hnext, heq⟩ := hstatement draft hdraft rest
    refine ⟨next, fuel, hnext, by simp at hfuel; omega, ?_⟩
    obtain ⟨hspace, htab, hline⟩ := hc
    have hskip : skipBlanks (c :: (text ++ '\n' :: rest)) = c :: (text ++ '\n' :: rest) :=
      List.dropWhile_cons_of_neg (by simp [hspace, htab])
    rw [List.cons_append, List.append_assoc, List.singleton_append, lines, hskip]
    split
    · rename_i h
      cases h
    · rename_i h
      cases h
      exact absurd rfl hline
    · rw [heq]
      rfl

theorem lines_eq_ok {text : List Char} (h : Leads text before after) (draft : Draft)
    (hdraft : before draft) :
    ∃ next, after next ∧ lines (text.length + 1) draft text = .ok next := by
  obtain ⟨next, less, hnext, hless, heq⟩ := h.run draft hdraft [] (text.length + 1) (by simp)
  obtain ⟨less, rfl⟩ : ∃ fewer, less = fewer + 1 := ⟨less - 1, by omega⟩
  rw [List.append_nil] at heq
  exact ⟨next, hnext, heq⟩

/-! ## Assignments and headers -/

theorem assignment {key : String} (hkey : Bare key) {item : Value}
    (hreads : Reads roomForValue item (inlineText 0 item).toList)
    (hassign : ∀ draft, before draft → ∃ next, after next ∧ draft.assign [key] item = some next) :
    Leads (line (key, item)) before after := by
  obtain ⟨c, cs, hcs, hc⟩ := hkey.exists_cons
  have hne : ∀ d, isBareKey d = false → c ≠ d := by
    rintro d hd rfl
    rw [hc] at hd
    cases hd
  have hclean := hkey.clean
  rw [hcs] at hclean
  have hline : line (key, item) =
      c :: ((cs ++ ' ' :: '=' :: ' ' :: (inlineText 0 item).toList) ++ ['\n']) := by
    rw [line, hcs]
    simp
  rw [hline]
  refine statementLine ?_ ⟨hne _ (by decide), hne _ (by decide), hne _ (by decide)⟩ ?_
  · rw [← List.cons_append]
    exact clean_append.mpr ⟨hclean, by simp [hreads.clean]⟩
  · intro draft hdraft rest
    obtain ⟨next, hnext, heq⟩ := hassign draft hdraft
    refine ⟨next, hnext, ?_⟩
    have hkey? := key?_assignment hkey (' ' :: ((inlineText 0 item).toList ++ '\n' :: rest))
    have hblank : skipBlanks (' ' :: ((inlineText 0 item).toList ++ '\n' :: rest)) =
        (inlineText 0 item).toList ++ '\n' :: rest := hreads.skipBlanks_eq _
    have hback := hreads.back
      ((' ' :: ((inlineText 0 item).toList ++ '\n' :: rest)).length + 1) ('\n' :: rest)
      (ends_cons (by decide) _) (by simp; omega)
    have hcomment : (c == '#') = false := beq_false_of_ne (hne '#' (by decide))
    rw [hcs, List.cons_append] at hkey?
    rw [List.append_assoc, List.cons_append, List.cons_append, List.cons_append]
    -- The line begins with a bare key, so it is no header and no remark.
    unfold statement
    split
    · rename_i h
      exact absurd (List.cons.inj h).1 (hne '[' (by decide))
    · rename_i h
      exact absurd (List.cons.inj h).1 (hne '[' (by decide))
    · rename_i h
      cases h
      simp only [hcomment, Bool.false_eq_true, if_false, hkey?, present, bind, Except.bind, mark?,
        beq_self_eq_true, if_true, hblank, hback, heq]
      rfl
    · rename_i h
      cases h

theorem header {key : String} (hkey : Bare key)
    (happend : ∀ draft, before draft →
      ∃ next, after next ∧ draft.settle.appendTable [key] = some next) :
    Leads (headline key) before after := by
  have hheadline : headline key = '[' :: (('[' :: (key.toList ++ [']', ']'])) ++ ['\n']) := by
    simp [headline]
  rw [hheadline]
  refine statementLine ?_ (by decide) ?_
  · simp [hkey.clean]
  · intro draft hdraft rest
    obtain ⟨next, hnext, heq⟩ := happend draft hdraft
    refine ⟨next, hnext, ?_⟩
    have hkey? : key? (key.toList ++ ']' :: ']' :: '\n' :: rest) =
        some ([key], ']' :: ']' :: '\n' :: rest) := by
      refine key?_bare hkey ?_ ?_
      · rintro c ⟨⟩
        decide
      · show some ']' ≠ some '.'
        decide
    have hblank := skipBlanks_bare hkey (']' :: ']' :: '\n' :: rest)
    simp only [List.cons_append, List.append_assoc, List.nil_append]
    rw [statement, hblank, hkey?]
    simp only [present, bind, Except.bind, heq, mark?, beq_self_eq_true, if_true, Option.bind_some]
    rfl

end Leads

/-! ## Drafts -/

/-- What a draft amounts to while a sheet is read: its table, the table that assignments go to, and
the keys among which those of the frozen values are. No dotted key occurs in a sheet. -/
structure Draft.Shows (root : Members) (header : Key) (frozen : List String) (draft : Draft) :
    Prop where
  root_eq : draft.root = root
  header_eq : draft.header = header
  opened_eq : draft.opened = []
  key_mem : ∀ note ∈ draft.notes, note.frozen = true → ∃ key ∈ frozen, note.key = [key]

namespace Draft.Shows

variable {root : Members} {header : Key} {frozen : List String} {draft : Draft}

theorem isNoted_eq_false (h : draft.Shows root header frozen) {key : Key}
    (hkey : ∀ part ∈ key.head?, part ∉ frozen) : isNoted draft.notes key true = false := by
  rw [isNoted, List.any_eq_false]
  intro note hnote hnoted
  rw [Bool.and_eq_true, beq_iff_eq] at hnoted
  obtain ⟨part, hpart, hnoteKey⟩ := h.key_mem note hnote hnoted.1
  refine hkey part ?_ hpart
  rw [hnoteKey, Bool.or_eq_true, Bool.and_eq_true] at hnoted
  rcases hnoted.2 with heq | ⟨-, hbelow⟩
  · rw [← beq_iff_eq.mp heq]
    rfl
  · obtain ⟨rest, rfl⟩ := List.isPrefixOf_iff_prefix.mp hbelow
    rfl

/-- An assignment succeeds if the table it goes to can be altered. -/
theorem assign (h : draft.Shows root header frozen)
    (hheader : ∀ part ∈ header.head?, part ∉ frozen) {key : String} {item : Value}
    {changed : Members} (hchange : alter true (addMember key item) header root = some changed)
    {more : List String} (hmore : frozen ⊆ more)
    (hcompound : isCompound item = true → header = [] ∧ key ∈ more) :
    ∃ next, Draft.Shows changed header more next ∧ draft.assign [key] item = some next := by
  have hnoted := h.isNoted_eq_false hheader
  obtain ⟨rfl, rfl, hopened, hnotes⟩ := h
  have hlast : [key].getLastD "" = key := rfl
  have hold : ∀ note ∈ draft.notes, note.frozen = true → ∃ key ∈ more, note.key = [key] := by
    intro note hnote hfrozen
    obtain ⟨part, hpart, heq⟩ := hnotes note hnote hfrozen
    exact ⟨part, hmore hpart, heq⟩
  have hassign : draft.assign [key] item = some { draft with
      root := changed
      notes := if isCompound item then ⟨draft.header ++ [key], true, true⟩ :: draft.notes
        else draft.notes } := by
    simp only [Draft.assign, Draft.passed, List.length_singleton, Nat.sub_self, List.range_zero,
      List.map_nil, List.any_nil, Bool.false_eq_true, if_false, List.dropLast_singleton,
      List.append_nil, hnoted, hlast, hchange, Option.bind_eq_bind, Option.bind_some,
      List.nil_append]
  refine ⟨_, ?_, hassign⟩
  refine ⟨rfl, rfl, hopened, ?_⟩
  -- Only a list that is assigned is frozen, and within a sheet none is assigned below a header.
  cases hitem : isCompound item with
  | false => exact hold
  | true =>
      obtain ⟨hempty, hkey⟩ := hcompound hitem
      intro note hnote
      rcases List.mem_cons.mp hnote with rfl | hnote
      · exact fun _ => ⟨key, hkey, by rw [hempty, List.nil_append]⟩
      · exact hold note hnote

/-- A header succeeds if its list is not frozen and can be altered. -/
theorem appendTable (h : draft.Shows root header frozen) {key : String} (hkey : key ∉ frozen)
    {changed : Members} (hchange : addTable key root = some changed) :
    ∃ next, Draft.Shows changed [key] frozen next ∧
      draft.settle.appendTable [key] = some next := by
  have hnoted : isNoted draft.notes [key] true = false := by
    refine h.isNoted_eq_false fun part hpart => ?_
    cases hpart
    exact hkey
  obtain ⟨rfl, rfl, hopened, hnotes⟩ := h
  have hlast : [key].getLastD "" = key := rfl
  have happend : draft.settle.appendTable [key] = some { draft.settle with
      root := changed
      notes := ⟨[key], false, false⟩ :: forget draft.notes [key]
      header := [key] } := by
    simp only [Draft.appendTable, Draft.settle, hopened, List.map_nil, List.nil_append, hnoted,
      Bool.false_eq_true, if_false, hlast, List.dropLast_singleton, alter, hchange,
      Option.bind_eq_bind, Option.bind_some]
  refine ⟨_, ⟨rfl, rfl, rfl, ?_⟩, happend⟩
  intro note hnote hfrozen
  rcases List.mem_cons.mp hnote with rfl | hnote
  · cases hfrozen
  · exact hnotes note (List.mem_of_mem_filter hnote) hfrozen

end Draft.Shows

/-! ## Sheets -/

inductive Flat : Value → Prop
  | scalar {item : Value} (scalar : Scalar item) : Flat item
  | rows {rows : List Value} (rows_row : ∀ row ∈ rows, ∃ table, row = .object table ∧ Row table) :
      Flat (.array rows)

theorem Flat.reads {item : Value} (h : Flat item) :
    Reads roomForValue item (inlineText 0 item).toList := by
  cases h with
  | scalar hscalar => exact reads_scalar hscalar _ 0
  | rows hrows => exact reads_rows hrows (by decide)

/-- A table of scalars and lists of rows under distinct bare keys. -/
structure Sheet (members : Members) : Prop where
  flat : ∀ member ∈ members, Flat member.2
  bare : ∀ member ∈ members, Bare member.1
  distinct : (members.map Prod.fst).Nodup

/-- The members of a table that are written inline. -/
def inline (members : Members) : Members :=
  members.filter fun member => !hasSections member.2

/-- The members of a table that get sections of their own. -/
def sectioned (members : Members) : Members :=
  members.filter fun member => hasSections member.2

theorem inline_append_sectioned_perm (members : Members) :
    (inline members ++ sectioned members).Perm members :=
  List.perm_append_comm.trans
    (List.filter_append_perm (fun member : String × Value => hasSections member.2) members)

theorem toList_assignments {members : Members} (hbare : ∀ member ∈ members, Bare member.1) :
    (assignments members).toList = (inline members).flatMap line := by
  rw [assignments, String.toList_join, List.flatMap_map]
  refine List.flatMap_congr fun member hmember => ?_
  show (keyText member.1 ++ " = " ++ inlineText 0 member.2 ++ "\n").toList = line member
  rw [keyText_bare (hbare member (List.mem_of_mem_filter hmember)), line]
  simp [String.toList_append]

/-! ### Assignments one after the other -/

theorem leads_lines (shows : Members → Draft → Prop) {members : Members} (read : Members)
    (hline : ∀ read key item, (key, item) ∈ members → key ∉ read.map Prod.fst →
      Leads (line (key, item)) (shows read) (shows (read ++ [(key, item)])))
    (hkeys : ((read ++ members).map Prod.fst).Nodup) :
    Leads (members.flatMap line) (shows read) (shows (read ++ members)) := by
  induction members generalizing read with
  | nil =>
      rw [List.append_nil]
      exact .nil
  | cons member members ih =>
      obtain ⟨key, item⟩ := member
      have hnew : key ∉ read.map Prod.fst := Members.not_mem_of_nodup hkeys
      have hrest := ih (read ++ [(key, item)])
        (fun read key item hmem => hline read key item (List.mem_cons_of_mem _ hmem))
        (by simpa using hkeys)
      rw [List.append_assoc, List.singleton_append] at hrest
      exact (hline read key item List.mem_cons_self hnew).append hrest

/-- What is written inline becomes the first part of the table. -/
theorem leads_inline {members : Members} (hsheet : Sheet members) :
    Leads ((inline members).flatMap line) (Draft.Shows [] [] [])
      (Draft.Shows (inline members) [] ((inline members).map Prod.fst)) := by
  refine leads_lines (fun read => Draft.Shows read [] (read.map Prod.fst)) []
    (fun read key item hmem hnew => ?_) ?_
  · have hmember := List.mem_of_mem_filter hmem
    refine .assignment (hsheet.bare _ hmember) (hsheet.flat _ hmember).reads fun draft hdraft => ?_
    refine hdraft.assign (fun _ h => by cases h) (addMember_eq_some hnew item) ?_ ?_
    · rw [List.map_append]
      exact List.subset_append_left _ _
    · exact fun _ => ⟨rfl, by simp⟩
  · exact hsheet.distinct.sublist (List.filter_sublist.map Prod.fst)

/-! ### Sections -/

/-- A table with a list of rows at its end; without the list as long as there are none. -/
def held (done : Members) (key : String) (rows : List Value) : Members :=
  if rows.isEmpty then done else done ++ [(key, .array rows)]

theorem held_concat (done : Members) (key : String) (rows : List Value) (row : Value) :
    held done key (rows ++ [row]) = done ++ [(key, .array (rows ++ [row]))] := by
  simp [held]

theorem addTable_held {done : Members} {key : String} (hkey : key ∉ done.map Prod.fst)
    (rows : List Value) :
    addTable key (held done key rows) = some (held done key (rows ++ [.object []])) := by
  rw [held_concat]
  cases rows with
  | nil =>
      have hget : Members.get? done key = none :=
        Members.get?_eq_none_iff.mpr (Members.has_eq_false_iff.mpr hkey)
      show addTable key done = _
      rw [addTable, hget, Members.insert_eq_append hkey]
      rfl
  | cons row rows =>
      rw [held, if_neg (by simp), addTable, Members.get?_concat hkey]
      simp only [Members.insert_concat hkey]

theorem alter_held {done : Members} {key : String} (hkey : key ∉ done.map Prod.fst)
    (rows : List Value) {table : Members} {field : String} (hfield : field ∉ table.map Prod.fst)
    (item : Value) :
    alter true (addMember field item) [key] (held done key (rows ++ [.object table])) =
      some (held done key (rows ++ [.object (table ++ [(field, item)])])) := by
  rw [held_concat, held_concat, alter, Members.get?_concat hkey]
  simp only [door, List.getLast?_concat, Option.bind_eq_bind, Option.bind_some, alter,
    addMember_eq_some hfield, List.dropLast_concat, Members.insert_concat hkey]

/-- A draft in which the rows of a list have been read so far. -/
def ShowsList (done : Members) (key : String) (frozen : List String) (rows : List Value)
    (draft : Draft) : Prop :=
  ∃ header, draft.Shows (held done key rows) header frozen

/-- The members of a row become those of the last table of the list. -/
theorem leads_row {done : Members} {key : String} {frozen : List String} {table : Members}
    (hrow : Row table) (hkey : key ∉ done.map Prod.fst) (hfrozen : key ∉ frozen)
    (rows : List Value) :
    Leads (table.flatMap line) (Draft.Shows (held done key (rows ++ [.object []])) [key] frozen)
      (Draft.Shows (held done key (rows ++ [.object table])) [key] frozen) := by
  refine leads_lines (fun read =>
    Draft.Shows (held done key (rows ++ [.object read])) [key] frozen) []
    (fun read field item hmem hnew => ?_) hrow.distinct
  have hitem := hrow.scalars _ hmem
  refine .assignment (hrow.bare _ hmem) (reads_scalar hitem _ 0) fun draft hdraft => ?_
  refine hdraft.assign ?_ (alter_held hkey rows hnew item) (List.Subset.refl _) ?_
  · rintro part ⟨⟩
    exact hfrozen
  · intro hcompound
    rw [hitem.isCompound_eq_false] at hcompound
    cases hcompound

theorem Row.sections_eq {table : Members} (h : Row table) (name : String) (started : Bool) :
    sections name started table = "" := by
  induction table generalizing started with
  | nil => rw [sections]
  | cons member table ih =>
      obtain ⟨key, item⟩ := member
      obtain ⟨hitem, -, htable⟩ := h.of_cons
      rw [sections, hitem.hasSections_eq_false]
      exact ih htable started

theorem Row.inline_eq {table : Members} (h : Row table) : inline table = table := by
  refine List.filter_eq_self.mpr fun member hmember => ?_
  rw [(h.scalars member hmember).hasSections_eq_false]
  rfl

/-- An empty line, if something has been written before. -/
theorem leads_break (started : Bool) (shows : Draft → Prop) :
    Leads (if started then "\n" else "").toList shows shows := by
  cases started with
  | true => exact .emptyLine
  | false => exact .nil

theorem leads_listSections {done : Members} {key : String} {frozen : List String}
    (hbare : Bare key) (hkey : key ∉ done.map Prod.fst) (hfrozen : key ∉ frozen)
    {rows : List Value} (hrows : ∀ row ∈ rows, ∃ table, row = .object table ∧ Row table)
    (read : List Value) (started : Bool) :
    Leads (listSections key started rows).toList (ShowsList done key frozen read)
      (ShowsList done key frozen (read ++ rows)) := by
  induction rows generalizing read started with
  | nil =>
      rw [listSections, List.append_nil]
      exact .nil
  | cons row rows ih =>
      obtain ⟨⟨table, rfl, hrow⟩, hrows'⟩ := List.forall_mem_cons.mp hrows
      have hheader : Leads (headline key) (ShowsList done key frozen read)
          (Draft.Shows (held done key (read ++ [.object []])) [key] frozen) := by
        refine .header hbare fun draft ⟨header, hdraft⟩ => ?_
        exact hdraft.appendTable hfrozen (addTable_held hkey read)
      have hrest := ih hrows' (read ++ [.object table]) true
      rw [List.append_assoc, List.singleton_append] at hrest
      have htable : Leads (table.flatMap line) _
          (ShowsList done key frozen (read ++ [.object table])) :=
        (leads_row hrow hkey hfrozen read).mono fun _ hdraft => ⟨[key], hdraft⟩
      have htext : (listSections key started (.object table :: rows)).toList =
          (if started then "\n" else "").toList ++ (headline key ++ (table.flatMap line ++
            (listSections key true rows).toList)) := by
        rw [listSections, hrow.sections_eq]
        simp only [String.toList_append, toList_assignments hrow.bare, hrow.inline_eq]
        simp [headline]
      rw [htext]
      -- The header appends an empty table, the lines below it fill that table.
      exact (leads_break started _).append (hheader.append (htable.append hrest))

theorem Flat.exists_rows {item : Value} (h : Flat item) (hsections : hasSections item = true) :
    ∃ rows, item = .array rows ∧ rows ≠ [] ∧
      ∀ row ∈ rows, ∃ table, row = .object table ∧ Row table := by
  cases h with
  | scalar hscalar =>
      rw [hscalar.hasSections_eq_false] at hsections
      cases hsections
  | @rows rows hrows =>
      refine ⟨rows, rfl, ?_, hrows⟩
      rintro rfl
      cases hsections

/-- The lists that get sections become the second part of the table. -/
theorem leads_sections (done : Members) {members : Members} {frozen : List String}
    (hflat : ∀ member ∈ members, Flat member.2) (hbare : ∀ member ∈ members, Bare member.1)
    (hkeys : ((done ++ sectioned members).map Prod.fst).Nodup)
    (hfrozen : ∀ member ∈ sectioned members, member.1 ∉ frozen) (started : Bool) :
    Leads (sections "" started members).toList
      (fun draft => ∃ header, draft.Shows done header frozen)
      (fun draft => ∃ header, draft.Shows (done ++ sectioned members) header frozen) := by
  induction members generalizing done started with
  | nil =>
      rw [sections, sectioned, List.filter_nil, List.append_nil]
      exact .nil
  | cons member members ih =>
      obtain ⟨key, item⟩ := member
      obtain ⟨hitem, hflat'⟩ := List.forall_mem_cons.mp hflat
      obtain ⟨hkey, hbare'⟩ := List.forall_mem_cons.mp hbare
      cases hsections : hasSections item with
      | false =>
          -- What was written inline adds no section.
          have hsame : sectioned ((key, item) :: members) = sectioned members :=
            List.filter_cons_of_neg (by simp [hsections])
          rw [hsame] at hkeys hfrozen ⊢
          rw [sections, hsections]
          exact ih done hflat' hbare' hkeys hfrozen started
      | true =>
          obtain ⟨rows, rfl, hrows, htables⟩ := hitem.exists_rows hsections
          have hmore : sectioned ((key, .array rows) :: members) =
              (key, .array rows) :: sectioned members := List.filter_cons_of_pos hsections
          rw [hmore] at hkeys hfrozen ⊢
          have hnew : key ∉ done.map Prod.fst := Members.not_mem_of_nodup hkeys
          -- The rows of this list first, then the lists behind it.
          have hlist :=
            leads_listSections hkey hnew (hfrozen _ List.mem_cons_self) htables [] started
          have hrest := ih (done ++ [(key, .array rows)]) hflat' hbare'
            (by simpa using hkeys) (fun member hmem => hfrozen member (List.mem_cons_of_mem _ hmem))
            true
          have hheld : held done key ([] ++ rows) = done ++ [(key, .array rows)] := by
            rw [List.nil_append, held, if_neg (by simpa using hrows)]
          rw [List.append_assoc, List.singleton_append] at hrest
          rw [sections, hsections, if_pos rfl, String.toList_append, nameWithin, if_pos (by decide),
            keyText_bare hkey, sectionsOf]
          refine (hlist.mono fun draft hdraft => ?_).append hrest
          rw [ShowsList, hheld] at hdraft
          exact hdraft

/-! ## Whole documents -/

theorem unifyLineEnds_eq {text : List Char} (h : Clean text) : unifyLineEnds text = text := by
  induction text with
  | nil => rfl
  | cons c text ih =>
      obtain ⟨hc, htext⟩ := clean_cons.mp h
      rw [unifyLineEnds.eq_2, ih htext]
      rintro _ rfl
      exact absurd rfl hc

/-- The text of a sheet is read as the sheet, its lists with sections last. -/
theorem read_render {members : Members} (hsheet : Sheet members) :
    read (render members) = .ok (inline members ++ sectioned members) := by
  have hkeys : ((inline members ++ sectioned members).map Prod.fst).Nodup :=
    ((inline_append_sectioned_perm members).map Prod.fst).nodup_iff.mpr hsheet.distinct
  -- No header can meet a list that was written inline, since the keys are distinct.
  have hfrozen : ∀ member ∈ sectioned members, member.1 ∉ (inline members).map Prod.fst := by
    intro member hmember hfrozen
    rw [List.map_append, List.nodup_append] at hkeys
    exact hkeys.2.2 _ hfrozen _ (List.mem_map_of_mem hmember) rfl
  have hleads := ((leads_inline hsheet).mono fun _ hdraft => ⟨[], hdraft⟩).append
    (leads_sections _ hsheet.flat hsheet.bare hkeys hfrozen (!(assignments members).isEmpty))
  obtain ⟨draft, ⟨header, hdraft⟩, hlines⟩ := hleads.lines_eq_ok {}
    ⟨rfl, rfl, rfl, fun _ h => by cases h⟩
  have htext : (render members).toList = (inline members).flatMap line ++
      (sections "" (!(assignments members).isEmpty) members).toList := by
    rw [render, String.toList_append, toList_assignments hsheet.bare]
  rw [read, htext, unifyLineEnds_eq hleads.clean, hlines]
  exact congrArg Except.ok hdraft.root_eq

end Rubric.Toml
