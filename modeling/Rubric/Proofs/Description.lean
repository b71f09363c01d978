import Rubric.Proofs.Reading
import Rubric.Requirement.Check

/-!
# Values that describe requirements

Which values a structure requirement can be read from, said without the reader. A string describes
an entry that is a plain type. An object describes a requirement if its parent type stands under
exactly one of two keys and is not empty, and if a list `contains`, which may be absent, describes
the entries. No other key is allowed. `check_eq_ok_iff` states that the reader accepts these values
and no others, as long as it has enough levels for them (`Value.levels`), and reads them as what
they describe.
-/

namespace Rubric

/-- A value describes an entry. -/
inductive Entry.DescribedBy : Entry → Value → Prop
  | type (name : String) : DescribedBy (.type name) (.string name)
  /-- An object with nothing but a parent type describes a requirement with no entries. -/
  | bare {key parent : String} {members : Members} (spelling : key = "type" ∨ key = "parent_type")
      (held : members.get? key = some (.string parent)) (named : parent ≠ "")
      (keys : ∀ member ∈ members, member.1 = key) :
      DescribedBy (.nested parent []) (.object members)
  /-- An object with a parent type and a list describes a requirement with the entries that the
  list describes, one by one. -/
  | containing {key parent : String} {members : Members} {contains : List Entry}
      {values : List Value} (spelling : key = "type" ∨ key = "parent_type")
      (held : members.get? key = some (.string parent)) (named : parent ≠ "")
      (listed : members.get? "contains" = some (.array values))
      (described : List.Forall₂ DescribedBy contains values)
      (keys : ∀ member ∈ members, member.1 = key ∨ member.1 = "contains") :
      DescribedBy (.nested parent contains) (.object members)

/-! ## Levels -/

namespace Value

mutual

/-- How many objects stand in one another, each in the list under `contains` of the one before. -/
def levels : Value → Nat
  | .object members => levelsBelow members + 1
  | _ => 0

def mostLevels : List Value → Nat
  | [] => 0
  | value :: rest => max (levels value) (mostLevels rest)

def levelsBelow : List (String × Value) → Nat
  | [] => 0
  | (key, value) :: rest =>
    if key == "contains" then
      match value with
      | .array items => mostLevels items
      | _ => 0
    else levelsBelow rest

end

theorem mostLevels_le_iff {values : List Value} {n : Nat} :
    mostLevels values ≤ n ↔ ∀ value ∈ values, value.levels ≤ n := by
  induction values with
  | nil => simp [mostLevels]
  | cons value values ih => rw [mostLevels, Nat.max_le, ih, List.forall_mem_cons]

theorem levelsBelow_le_iff {members : Members} {n : Nat} :
    levelsBelow members ≤ n ↔ ∀ values, members.get? "contains" = some (.array values) →
      ∀ value ∈ values, value.levels ≤ n := by
  induction members with
  | nil => simp [levelsBelow, Members.get?]
  | cons member members ih =>
      obtain ⟨key, value⟩ := member
      rw [Members.get?_cons]
      by_cases hkey : key = "contains"
      · cases value with
        | array values => simp [levelsBelow, hkey, mostLevels_le_iff]
        | _ => simp [levelsBelow, hkey]
      · rw [if_neg hkey, ← ih]
        conv_lhs => rw [levelsBelow.eq_def]
        simp only [beq_false_of_ne hkey, Bool.false_eq_true, if_false]

theorem levels_object_le_iff {members : Members} {n : Nat} :
    (Value.object members).levels ≤ n + 1 ↔
      ∀ values, members.get? "contains" = some (.array values) →
        ∀ value ∈ values, value.levels ≤ n := by
  rw [levels, Nat.add_le_add_iff_right, levelsBelow_le_iff]

end Value

namespace Requirement

variable {levels : Nat}

/-! ## The reader, part by part -/

theorem checkContains_eq (levels : Nat) (members : Members) :
    checkContains levels members = (members.get? "contains").map (fun
      | .array values => checkEntries levels 0 values
      | _ => Checked.fail .notAList) := by
  induction members with
  | nil => rfl
  | cons member members ih =>
      obtain ⟨key, value⟩ := member
      rw [Members.get?_cons]
      by_cases h : key = "contains"
      · subst h
        cases value with
        | _ => rfl
      · have hkey : (key == containsField.key) = false := beq_false_of_ne h
        rw [if_neg h, ← ih]
        conv_lhs => rw [checkContains.eq_def]
        simp only [hkey, Bool.false_eq_true, if_false]

theorem checkEntries_eq_ok_iff {position : Nat} {values : List Value} {entries : List Entry} :
    checkEntries levels position values = .ok entries ↔
      List.Forall₂ (fun entry value => checkEntry levels value = .ok entry) entries values := by
  induction values generalizing position entries with
  | nil =>
      rw [checkEntries, Except.ok.injEq, List.forall₂_nil_right_iff]
      exact eq_comm
  | cons value values ih =>
      simp only [checkEntries, Checked.apply_eq_ok_iff, Checked.map_eq_ok_iff,
        Checked.within_eq_ok_iff, ih, List.forall₂_cons_right_iff]
      constructor
      · rintro ⟨_, rest, ⟨entry, hentry, rfl⟩, hrest, rfl⟩
        exact ⟨entry, rest, hentry, hrest, rfl⟩
      · rintro ⟨entry, rest, hentry, hrest, rfl⟩
        exact ⟨_, rest, ⟨entry, hentry, rfl⟩, hrest, rfl⟩

theorem orEntry_eq_ok_iff {reading : Checked Requirement} {entry : Entry} :
    orEntry reading = .ok entry ↔ ∃ requirement, reading = .ok requirement ∧
      requirement.entry = entry := by
  cases reading with
  | ok requirement =>
      constructor
      · intro h
        exact ⟨requirement, rfl, Except.ok.inj h⟩
      · rintro ⟨_, h, rfl⟩
        cases h
        rfl
  | error complaints =>
      constructor
      · intro h
        cases h
      · rintro ⟨_, h, -⟩
        cases h

/-- The key under which the parent type stands; the first of the two hides the second. -/
theorem parentField_keyIn?_eq_some_iff {members : Members} {key : String} :
    parentField.keyIn? members = some key ↔
      (key = "type" ∨ key = "parent_type" ∧ members.has "type" = false) ∧
        members.has key = true := by
  simp only [Checked.Field.keyIn?_eq_some_iff, parentField, Option.some.injEq,
    eq_comm (b := key), and_comm (a := key = _)]

theorem containsField_keyIn?_eq_some_iff {members : Members} {key : String} :
    containsField.keyIn? members = some key ↔
      key = "contains" ∧ members.has "contains" = true := by
  simp only [Checked.Field.keyIn?_eq_some_iff, containsField, reduceCtorEq, and_false, or_false]
  constructor
  · rintro ⟨rfl, h⟩
    exact ⟨rfl, h⟩
  · rintro ⟨rfl, h⟩
    exact ⟨rfl, h⟩

/-- What is under `contains` is read as some entries; if nothing is, there are none. -/
def Lists (levels : Nat) (members : Members) (entries : List Entry) : Prop :=
  (members.get? "contains" = none ∧ entries = []) ∨
  ∃ values, members.get? "contains" = some (.array values) ∧
    List.Forall₂ (fun entry value => checkEntry levels value = .ok entry) entries values

theorem lists_iff {members : Members} {entries : List Entry} :
    Lists levels members entries ↔
      (checkContains levels members = none ∧ entries = []) ∨
        checkContains levels members = some (.ok entries) := by
  rw [checkContains_eq, Lists]
  cases members.get? "contains" with
  | none => simp
  | some value =>
      cases value with
      | array values => simp [checkEntries_eq_ok_iff]
      | _ => simp [Checked.fail]

/-- What putting together a requirement comes to, field by field. -/
theorem assemble_eq_ok_iff {members : Members} {reading : Option (Checked (List Entry))}
    {requirement : Requirement} :
    assemble members reading = .ok requirement ↔
      (∃ key, parentField.keyIn? members = some key ∧
        members.get? key = some (.string requirement.parent)) ∧ requirement.parent ≠ "" ∧
      ((reading = none ∧ requirement.contains = []) ∨
        reading = some (.ok requirement.contains)) ∧
      Checked.strangers [parentField, containsField] members = [] := by
  obtain ⟨parent, contains⟩ := requirement
  unfold assemble
  rw [Checked.butFor_eq_ok_iff, Checked.apply_eq_ok_iff]
  simp only [Checked.map_eq_ok_iff, Checked.Field.required_eq_ok_iff, Checked.name_eq_ok_iff]
  constructor
  · rintro ⟨⟨_, _, ⟨_, ⟨key, _, hkey, hget, rfl, hne⟩, rfl⟩, hlists, hmk⟩, hstrange⟩
    cases hmk
    refine ⟨⟨key, hkey, hget⟩, hne, ?_, hstrange⟩
    cases reading with
    | none =>
        cases hlists
        exact .inl ⟨rfl, rfl⟩
    | some read =>
        cases Checked.within_eq_ok_iff.mp hlists
        exact .inr rfl
  · rintro ⟨⟨key, hkey, hget⟩, hne, hlists, hstrange⟩
    refine ⟨⟨_, _, ⟨_, ⟨key, _, hkey, hget, rfl, hne⟩, rfl⟩, ?_, rfl⟩, hstrange⟩
    rcases hlists with ⟨rfl, rfl⟩ | rfl
    · rfl
    · exact Checked.within_eq_ok_iff.mpr rfl

theorem check_object_eq_ok_iff {members : Members} {requirement : Requirement} :
    check (levels + 1) (.object members) = .ok requirement ↔
      ∃ key, parentField.keyIn? members = some key ∧
        members.get? key = some (.string requirement.parent) ∧ requirement.parent ≠ "" ∧
        Lists levels members requirement.contains ∧
        ∀ member ∈ members, member.1 = key ∨ member.1 = "contains" := by
  have hstrangers : ∀ key, parentField.keyIn? members = some key →
      (Checked.strangers [parentField, containsField] members = [] ↔
        ∀ member ∈ members, member.1 = key ∨ member.1 = "contains") := by
    intro key hkey
    rw [Checked.strangers_eq_nil_iff]
    refine forall₂_congr fun member hmember => ?_
    simp only [List.mem_cons, List.not_mem_nil, or_false, exists_eq_or_imp, exists_eq_left, hkey,
      Option.some.injEq, containsField_keyIn?_eq_some_iff]
    constructor
    · rintro (h | ⟨h, -⟩)
      · exact .inl h.symm
      · exact .inr h
    · rintro (h | h)
      · exact .inl h.symm
      · exact .inr ⟨h, Members.has_eq_true_iff.mpr ⟨member, hmember, h⟩⟩
  rw [check, assemble_eq_ok_iff, ← lists_iff]
  constructor
  · rintro ⟨⟨key, hkey, hget⟩, hne, hlists, hstrange⟩
    exact ⟨key, hkey, hget, hne, hlists, (hstrangers key hkey).mp hstrange⟩
  · rintro ⟨key, hkey, hget, hne, hlists, hkeys⟩
    exact ⟨⟨key, hkey, hget⟩, hne, hlists, (hstrangers key hkey).mpr hkeys⟩

/-- A key is absent that is neither of the two that are allowed. -/
theorem has_eq_false_of_keys {members : Members} {key other : String}
    (hkeys : ∀ member ∈ members, member.1 = key ∨ member.1 = "contains") (hkey : other ≠ key)
    (hcontains : other ≠ "contains") : members.has other = false := by
  rw [Bool.eq_false_iff]
  intro hhas
  obtain ⟨member, hmember, rfl⟩ := Members.has_eq_true_iff.mp hhas
  exact (hkeys member hmember).elim hkey hcontains

/-! ## The reader as a whole -/

theorem forall₂_checkEntry_iff {entries : List Entry} {values : List Value}
    (hvalues : ∀ value ∈ values, ∀ entry, checkEntry levels value = .ok entry ↔
      entry.DescribedBy value ∧ value.levels ≤ levels) :
    List.Forall₂ (fun entry value => checkEntry levels value = .ok entry) entries values ↔
      List.Forall₂ Entry.DescribedBy entries values ∧ ∀ value ∈ values, value.levels ≤ levels := by
  induction values generalizing entries with
  | nil => simp
  | cons value values ih =>
      rw [List.forall_mem_cons] at hvalues ⊢
      simp only [List.forall₂_cons_right_iff, ih hvalues.2, hvalues.1]
      constructor
      · rintro ⟨entry, rest, ⟨hentry, hlevels⟩, ⟨hrest, hall⟩, rfl⟩
        exact ⟨⟨entry, rest, hentry, hrest, rfl⟩, hlevels, hall⟩
      · rintro ⟨⟨entry, rest, hentry, hrest, rfl⟩, hlevels, hall⟩
        exact ⟨entry, rest, ⟨hentry, hlevels⟩, ⟨hrest, hall⟩, rfl⟩

theorem check_object_iff {members : Members} {requirement : Requirement}
    (hvalues : ∀ values, members.get? "contains" = some (.array values) →
      ∀ value ∈ values, ∀ entry, checkEntry levels value = .ok entry ↔
        entry.DescribedBy value ∧ value.levels ≤ levels) :
    check (levels + 1) (.object members) = .ok requirement ↔
      requirement.entry.DescribedBy (.object members) ∧
        (Value.object members).levels ≤ levels + 1 := by
  rw [check_object_eq_ok_iff, Value.levels_object_le_iff]
  constructor
  · rintro ⟨key, hkey, hget, hne, hlists, hkeys⟩
    have hspelling : key = "type" ∨ key = "parent_type" :=
      (parentField_keyIn?_eq_some_iff.mp hkey).1.imp_right And.left
    obtain ⟨hnone, hnil⟩ | ⟨values, hsome, hentries⟩ := hlists
    · rw [entry, hnil, hnone]
      refine ⟨.bare hspelling hget hne fun member hmember => ?_, nofun⟩
      refine (hkeys member hmember).resolve_right fun hcontains => ?_
      have hhas := Members.has_eq_true_iff.mpr ⟨member, hmember, hcontains⟩
      rw [Members.get?_eq_none_iff.mp hnone] at hhas
      cases hhas
    · obtain ⟨hdescribed, hlevels⟩ := (forall₂_checkEntry_iff (hvalues values hsome)).mp hentries
      refine ⟨.containing hspelling hget hne hsome hdescribed hkeys, fun others hothers => ?_⟩
      cases hsome.symm.trans hothers
      exact hlevels
  · -- A key other than the one that holds the parent type is `contains`, so none hides it.
    have hkeyIn : ∀ {key parent}, key = "type" ∨ key = "parent_type" →
        members.get? key = some (.string parent) →
        (∀ member ∈ members, member.1 = key ∨ member.1 = "contains") →
        parentField.keyIn? members = some key := by
      intro key parent hspelling hget hkeys
      refine parentField_keyIn?_eq_some_iff.mpr ⟨?_, Members.has_of_get?_eq_some hget⟩
      rcases hspelling with rfl | rfl
      · exact .inl rfl
      · exact .inr ⟨rfl, has_eq_false_of_keys hkeys (by decide) (by decide)⟩
    obtain ⟨parent, contains⟩ := requirement
    rintro ⟨h, hlevels⟩
    cases h with
    | @bare key _ _ hspelling hget hne hkeys =>
        have hkeys' : ∀ member ∈ members, member.1 = key ∨ member.1 = "contains" :=
          fun member hmember => .inl (hkeys member hmember)
        have hnone : members.get? "contains" = none := by
          rw [Members.get?_eq_none_iff]
          refine Bool.eq_false_iff.mpr fun hhas => ?_
          obtain ⟨member, hmember, hname⟩ := Members.has_eq_true_iff.mp hhas
          rw [hkeys member hmember] at hname
          rcases hspelling with rfl | rfl
          · revert hname
            decide
          · revert hname
            decide
        exact ⟨key, hkeyIn hspelling hget hkeys', hget, hne, .inl ⟨hnone, rfl⟩, hkeys'⟩
    | @containing key _ _ _ values hspelling hget hne hsome hentries hkeys =>
        have hread := (forall₂_checkEntry_iff (hvalues values hsome)).mpr
          ⟨hentries, hlevels values hsome⟩
        exact ⟨key, hkeyIn hspelling hget hkeys, hget, hne, .inr ⟨values, hsome, hread⟩, hkeys⟩

theorem sizeOf_lt_of_mem_listed {members : Members} {key : String} {values : List Value}
    (hget : members.get? key = some (.array values)) {value : Value} (hvalue : value ∈ values) :
    sizeOf value < sizeOf (Value.object members) := by
  have hmem := List.sizeOf_lt_of_mem hvalue
  have hlist := Members.sizeOf_get?_lt hget
  rw [Value.array.sizeOf_spec] at hlist
  rw [Value.object.sizeOf_spec]
  omega

/-- An object is read as an entry if it is read as a requirement. -/
theorem checkEntry_object (levels : Nat) (members : Members) :
    checkEntry levels (.object members) = orEntry (check levels (.object members)) := by
  cases levels with
  | zero => rfl
  | succ levels => rfl

theorem checkEntry_eq_ok_iff : (levels : Nat) → (value : Value) → (entry : Entry) →
    (checkEntry levels value = .ok entry ↔ entry.DescribedBy value ∧ value.levels ≤ levels)
  | levels, .string name, entry => by
      rw [checkEntry, Except.ok.injEq]
      constructor
      · rintro rfl
        exact ⟨.type name, Nat.zero_le levels⟩
      · rintro ⟨⟨⟩, -⟩
        rfl
  | 0, .object members, entry => by
      refine iff_of_false nofun fun h => ?_
      have hlevels := h.2
      rw [Value.levels] at hlevels
      exact Nat.not_succ_le_zero _ hlevels
  | levels + 1, .object members, entry => by
      rw [checkEntry_object, orEntry_eq_ok_iff]
      -- The entries are smaller than the object and one level further down.
      have hobject : ∀ requirement, check (levels + 1) (.object members) = .ok requirement ↔ _ :=
        fun requirement => check_object_iff fun values hget value hvalue entry => by
          have hsize := sizeOf_lt_of_mem_listed hget hvalue
          exact checkEntry_eq_ok_iff levels value entry
      constructor
      · rintro ⟨requirement, hcheck, rfl⟩
        exact (hobject requirement).mp hcheck
      · intro h
        cases entry with
        | type name => cases h.1
        | nested parent contains => exact ⟨⟨parent, contains⟩, (hobject _).mpr h, rfl⟩
  | levels, .null, entry | levels, .bool _, entry | levels, .int _, entry
  | levels, .float _, entry | levels, .moment _, entry | levels, .array _, entry => by
      constructor
      · intro h
        cases levels <;> cases h
      · rintro ⟨⟨⟩, -⟩
termination_by _ value => sizeOf value
decreasing_by exact hsize

/-- The reader accepts exactly the values that describe a requirement and have no more levels than
it goes down. -/
theorem check_eq_ok_iff {value : Value} {requirement : Requirement} :
    check levels value = .ok requirement ↔
      requirement.entry.DescribedBy value ∧ value.levels ≤ levels := by
  cases value with
  | object members =>
      rw [← checkEntry_eq_ok_iff, checkEntry_object, orEntry_eq_ok_iff]
      constructor
      · intro h
        exact ⟨requirement, h, rfl⟩
      · rintro ⟨⟨parent, contains⟩, hcheck, hentry⟩
        cases hentry
        exact hcheck
  | _ =>
      obtain ⟨parent, contains⟩ := requirement
      constructor
      · intro h
        cases levels <;> cases h
      · rintro ⟨⟨⟩, -⟩

end Requirement

/-! ## What is read names its parents -/

theorem Entry.mem_parentTypesOfList {parent : String} {entries : List Entry} :
    parent ∈ parentTypesOfList entries ↔ ∃ entry ∈ entries, parent ∈ entry.parentTypes := by
  induction entries with
  | nil => simp [parentTypesOfList]
  | cons entry entries ih => simp [parentTypesOfList, ih]

/-- Every parent type of a described entry is named, at every level. -/
theorem Entry.ne_of_mem_parentTypes : (entry : Entry) → {value : Value} →
    entry.DescribedBy value → ∀ parent ∈ entry.parentTypes, parent ≠ ""
  | .type _, _, _, parent, h => by
      rw [Entry.parentTypes] at h
      cases h
  | .nested name contains, .object members, hdescribed, parent, h => by
      rw [Entry.parentTypes, List.mem_cons, Entry.mem_parentTypesOfList] at h
      rcases h with rfl | ⟨entry, hentry, hparent⟩
      · cases hdescribed with
        | bare _ _ named _ => exact named
        | containing _ _ named _ _ _ => exact named
      · cases hdescribed with
        | bare => cases hentry
        | containing _ _ _ _ described _ =>
            have hsize : sizeOf entry < sizeOf (Entry.nested name contains) := by
              have := List.sizeOf_lt_of_mem hentry
              rw [Entry.nested.sizeOf_spec]
              omega
            obtain ⟨i, hi, rfl⟩ := List.getElem_of_mem hentry
            have hvalue := described.get hi (described.length_eq ▸ hi)
            exact Entry.ne_of_mem_parentTypes _ hvalue parent hparent
termination_by entry => sizeOf entry
decreasing_by exact hsize

end Rubric
