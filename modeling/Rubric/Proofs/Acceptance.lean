import Rubric.Proofs.Description

/-!
# The grammar of structure requirements

`Value.StatesRequirement` is the grammar of the objects from which a structure requirement can be
read. It speaks of keys and values only, not of what is read from them.
`Requirement.check_accepts_grammar` states that the reader accepts those of these values for which
it has enough levels, and no others, and that a requirement that has been read, written as an
object, is read as the same requirement again.

The reader looks for the parent type under one key and, if that is absent, under another; the
grammar allows exactly one of the two. `exists_keyIn?_iff` brings these together: of two keys the
reader would take one and refuse the other as a stranger.
-/

namespace Rubric

mutual

/-- An entry is stated by a string, for a plain type, or by an object that states a requirement. -/
inductive Value.StatesEntry : Value → Prop
  | string (name : String) : StatesEntry (.string name)
  | requirement {value : Value} (states : StatesRequirement value) : StatesEntry value

/-- A requirement is stated by an object with exactly one of the keys `type` and `parent_type`,
which holds a string that is not empty, perhaps with a key `contains`, which holds an array of
values that state entries, and with no other key. -/
inductive Value.StatesRequirement : Value → Prop
  | object {members : Members}
      (one : members.has "type" ≠ members.has "parent_type")
      (parent : ∀ key ∈ ["type", "parent_type"], ∀ value, members.get? key = some value →
        ∃ name, value = .string name ∧ name ≠ "")
      (listed : ∀ value, members.get? "contains" = some value → ∃ values, value = .array values)
      (items : ∀ values, members.get? "contains" = some (.array values) →
        ∀ item ∈ values, StatesEntry item)
      (keys : ∀ member ∈ members, member.1 ∈ ["type", "parent_type", "contains"]) :
      StatesRequirement (.object members)

end

theorem exists_forall₂_iff {α β : Type} {related : α → β → Prop} {targets : List β} :
    (∃ sources, List.Forall₂ related sources targets) ↔
      ∀ target ∈ targets, ∃ source, related source target := by
  induction targets with
  | nil => simp
  | cons target targets ih =>
      rw [List.forall_mem_cons, ← ih]
      constructor
      · rintro ⟨_, _ | ⟨hsource, hsources⟩⟩
        exact ⟨⟨_, hsource⟩, _, hsources⟩
      · rintro ⟨⟨source, hsource⟩, sources, hsources⟩
        exact ⟨source :: sources, .cons hsource hsources⟩

namespace Requirement

/-! ## What the reader accepts -/

variable {members : Members} {levels : Nat}

theorem eq_key_of_get?_eq_some {key other : String} {value : Value}
    (hkeys : ∀ member ∈ members, member.1 = key ∨ member.1 = "contains")
    (hcontains : other ≠ "contains") (hget : members.get? other = some value) : other = key := by
  by_contra hkey
  have hnone := has_eq_false_of_keys hkeys hkey hcontains
  rw [Members.has_of_get?_eq_some hget] at hnone
  cases hnone

/-- The reader uses one key for the parent type and knows all others but `contains` as strangers
exactly if one of the two keys is there and no key beside it but `contains`. -/
theorem exists_keyIn?_iff :
    (∃ key, parentField.keyIn? members = some key ∧
      ∀ member ∈ members, member.1 = key ∨ member.1 = "contains") ↔
    members.has "type" ≠ members.has "parent_type" ∧
      ∀ member ∈ members, member.1 ∈ ["type", "parent_type", "contains"] := by
  simp only [parentField_keyIn?_eq_some_iff, List.mem_cons, List.not_mem_nil, or_false]
  constructor
  · rintro ⟨key, ⟨rfl | ⟨rfl, hfirst⟩, hhas⟩, hkeys⟩
    · rw [hhas, has_eq_false_of_keys hkeys (by decide) (by decide)]
      exact ⟨by decide, fun member hmember => (hkeys member hmember).imp_right .inr⟩
    · rw [hhas, hfirst]
      exact ⟨by decide, fun member hmember => .inr (hkeys member hmember)⟩
  · rintro ⟨hone, hkeys⟩
    -- The key that is absent is the key of no member.
    have habsent : ∀ {key : String}, members.has key = false →
        ∀ member ∈ members, member.1 ≠ key := by
      rintro _ hhas member hmember rfl
      exact Members.has_eq_false_iff.mp hhas (List.mem_map_of_mem hmember)
    cases htype : members.has "type" with
    | true =>
        rw [htype, ne_comm, ne_eq, Bool.not_eq_true] at hone
        refine ⟨"type", ⟨.inl rfl, htype⟩, fun member hmember => ?_⟩
        exact (hkeys member hmember).imp_right fun h => h.resolve_left (habsent hone member hmember)
    | false =>
        rw [htype, ne_comm, ne_eq, Bool.not_eq_false] at hone
        refine ⟨"parent_type", ⟨.inr ⟨rfl, rfl⟩, hone⟩, fun member hmember => ?_⟩
        exact (hkeys member hmember).resolve_left (habsent htype member hmember)

/-- Some entries are read from an object exactly if `contains`, where it is there, is an array of
which every item is accepted. -/
theorem exists_lists_iff :
    (∃ entries, Lists levels members entries) ↔
      ∀ value, members.get? "contains" = some value → ∃ values, value = .array values ∧
        ∀ item ∈ values, ∃ entry, checkEntry levels item = .ok entry := by
  simp only [Lists, ← exists_forall₂_iff]
  constructor
  · rintro ⟨entries, ⟨hnone, -⟩ | ⟨values, hsome, hentries⟩⟩ value hvalue
    · rw [hnone] at hvalue
      cases hvalue
    · rw [hsome] at hvalue
      cases hvalue
      exact ⟨values, rfl, entries, hentries⟩
  · intro h
    cases hget : members.get? "contains" with
    | none => exact ⟨[], .inl ⟨rfl, rfl⟩⟩
    | some value =>
        obtain ⟨values, rfl, entries, hentries⟩ := h value hget
        exact ⟨entries, .inr ⟨values, rfl, hentries⟩⟩

theorem exists_check_object_iff
    (hitems : ∀ values, members.get? "contains" = some (.array values) → ∀ item ∈ values,
      ((∃ entry, checkEntry levels item = .ok entry) ↔
        item.StatesEntry ∧ item.levels ≤ levels)) :
    (∃ requirement, check (levels + 1) (.object members) = .ok requirement) ↔
      (Value.object members).StatesRequirement ∧ (Value.object members).levels ≤ levels + 1 := by
  simp only [check_object_eq_ok_iff, Value.levels_object_le_iff]
  constructor
  · rintro ⟨⟨parent, contains⟩, key, hkey, hget, hne, hlists, hkeys⟩
    have hlisted := exists_lists_iff.mp ⟨contains, hlists⟩
    have hread : ∀ values, members.get? "contains" = some (.array values) → ∀ item ∈ values,
        item.StatesEntry ∧ item.levels ≤ levels := by
      intro values hvalues item hitem
      obtain ⟨_, ⟨⟩, haccepted⟩ := hlisted _ hvalues
      exact (hitems values hvalues item hitem).mp (haccepted item hitem)
    obtain ⟨hone, hall⟩ := exists_keyIn?_iff.mp ⟨key, hkey, hkeys⟩
    refine ⟨.object hone ?_ ?_ ?_ hall, fun values hvalues item hitem => ?_⟩
    · intro other hother value hvalue
      -- Of the spellings of the parent, only the one that was read can be there.
      have hcontains : other ≠ "contains" := by
        rintro rfl
        revert hother
        decide
      obtain rfl := eq_key_of_get?_eq_some hkeys hcontains hvalue
      exact ⟨parent, Option.some_inj.mp (hvalue.symm.trans hget), hne⟩
    · intro value hvalue
      obtain ⟨values, rfl, -⟩ := hlisted value hvalue
      exact ⟨values, rfl⟩
    · exact fun values hvalues item hitem => (hread values hvalues item hitem).1
    · exact (hread values hvalues item hitem).2
  · rintro ⟨⟨hone, hparent, hlisted, hstated, hall⟩, hlevels⟩
    -- The spelling that is there is the one that the reader picks.
    obtain ⟨key, hkey, hkeys⟩ := exists_keyIn?_iff.mpr ⟨hone, hall⟩
    obtain ⟨hspelling, hhas⟩ := parentField_keyIn?_eq_some_iff.mp hkey
    obtain ⟨value, hget⟩ := Members.exists_get?_of_has hhas
    have hmem : key ∈ ["type", "parent_type"] := by
      simpa using hspelling.imp_right And.left
    obtain ⟨name, rfl, hname⟩ := hparent key hmem value hget
    obtain ⟨entries, hentries⟩ := exists_lists_iff.mpr fun value hvalue => by
      obtain ⟨values, rfl⟩ := hlisted value hvalue
      exact ⟨values, rfl, fun item hitem => (hitems values hvalue item hitem).mpr
        ⟨hstated values hvalue item hitem, hlevels values hvalue item hitem⟩⟩
    exact ⟨⟨name, entries⟩, key, hkey, hget, hname, hentries, hkeys⟩

theorem not_levels_object_le_zero (members : Members) : ¬(Value.object members).levels ≤ 0 := by
  rw [Value.levels]
  exact Nat.not_succ_le_zero _

/-- The reader accepts the entries of the grammar that have no more levels than it goes down, and no
others. -/
theorem exists_checkEntry_iff : (levels : Nat) → (value : Value) →
    ((∃ entry, checkEntry levels value = .ok entry) ↔
      value.StatesEntry ∧ value.levels ≤ levels)
  | levels, .string name => by
      rw [checkEntry]
      exact ⟨fun _ => ⟨.string name, Nat.zero_le levels⟩, fun _ => ⟨.type name, rfl⟩⟩
  | 0, .object members => by
      refine iff_of_false ?_ fun h => not_levels_object_le_zero members h.2
      rintro ⟨_, ⟨⟩⟩
  | levels + 1, .object members => by
      have hitems : ∀ values, Members.get? members "contains" = some (.array values) →
          ∀ item ∈ values, ((∃ entry, checkEntry levels item = .ok entry) ↔
            item.StatesEntry ∧ item.levels ≤ levels) := by
        intro values hget item hitem
        have hsize := sizeOf_lt_of_mem_listed hget hitem
        exact exists_checkEntry_iff levels item
      have hobject := exists_check_object_iff hitems
      rw [checkEntry_object]
      simp only [orEntry_eq_ok_iff]
      constructor
      · rintro ⟨entry, requirement, hcheck, -⟩
        obtain ⟨hstates, hlevels⟩ := hobject.mp ⟨requirement, hcheck⟩
        exact ⟨.requirement hstates, hlevels⟩
      · rintro ⟨hentry, hlevels⟩
        cases hentry with
        | requirement states =>
            obtain ⟨requirement, hcheck⟩ := hobject.mpr ⟨states, hlevels⟩
            exact ⟨requirement.entry, requirement, hcheck, rfl⟩
  | levels, .null | levels, .bool _ | levels, .int _ | levels, .float _ | levels, .moment _
  | levels, .array _ => by
      constructor
      · rintro ⟨entry, h⟩
        cases levels <;> cases h
      · rintro ⟨h, -⟩
        cases h with
        | requirement states => cases states
termination_by _ value => sizeOf value
decreasing_by exact hsize

theorem exists_check_iff (levels : Nat) (value : Value) :
    (∃ requirement, check levels value = .ok requirement) ↔
      value.StatesRequirement ∧ value.levels ≤ levels := by
  cases value with
  | object members =>
      cases levels with
      | zero =>
          refine iff_of_false ?_ fun h => not_levels_object_le_zero members h.2
          rintro ⟨_, ⟨⟩⟩
      | succ levels =>
          exact exists_check_object_iff fun _ _ item _ => exists_checkEntry_iff levels item
  | _ =>
      constructor
      · rintro ⟨requirement, h⟩
        cases levels <;> cases h
      · rintro ⟨⟨⟩, -⟩

end Requirement

/-! ## Requirements written as objects -/

theorem Entry.toValues_eq_map (entries : List Entry) : toValues entries = entries.map toValue := by
  induction entries with
  | nil => rw [toValues, List.map_nil]
  | cons entry entries ih => rw [toValues, ih, List.map_cons]

theorem Entry.describedBy_toValue : (entry : Entry) →
    (∀ parent ∈ entry.parentTypes, parent ≠ "") → entry.DescribedBy entry.toValue
  | .type name, _ => by
      rw [toValue]
      exact .type name
  | .nested parent contains, h => by
      rw [parentTypes, List.forall_mem_cons] at h
      have hdescribed : ∀ entry ∈ contains, entry.DescribedBy entry.toValue := by
        intro entry hentry
        have hsize := List.sizeOf_lt_of_mem hentry
        exact describedBy_toValue entry fun inner hinner =>
          h.2 inner (mem_parentTypesOfList.mpr ⟨entry, hentry, hinner⟩)
      rw [toValue, toValues_eq_map]
      refine .containing (.inl rfl) rfl h.1 rfl ?_ ?_
      · rw [List.forall₂_map_right_iff, List.forall₂_same]
        exact hdescribed
      · simp

theorem Entry.levels_toValue_le : (entry : Entry) → {value : Value} → {n : Nat} →
    entry.DescribedBy value → value.levels ≤ n → entry.toValue.levels ≤ n
  | .type name, _, n, _, _ => by
      rw [toValue, Value.levels]
      exact Nat.zero_le n
      exact fun _ => Value.noConfusion
  | .nested parent contains, .object members, 0, _, hlevels =>
      absurd hlevels (Requirement.not_levels_object_le_zero members)
  | .nested parent contains, .object members, n + 1, hdescribed, hlevels => by
      rw [Value.levels_object_le_iff] at hlevels
      rw [toValue, toValues_eq_map, Value.levels_object_le_iff]
      -- Both are lists of entries; each entry has no more levels than its description.
      rintro _ ⟨⟩ value hvalue
      obtain ⟨entry, hentry, rfl⟩ := List.mem_map.mp hvalue
      cases hdescribed with
      | bare => cases hentry
      | containing _ _ _ hlisted hentries _ =>
          have hsize := List.sizeOf_lt_of_mem hentry
          obtain ⟨i, hi, rfl⟩ := List.getElem_of_mem hentry
          have hi' := hentries.length_eq ▸ hi
          exact levels_toValue_le _ (hentries.get hi hi')
            (hlevels _ hlisted _ (List.getElem_mem hi'))

namespace Requirement

/-- The reader accepts the values of the grammar that have no more levels than it goes down, and no
others. What it has read from some value, it reads again from the object that the requirement is
written as, and so it does with every requirement of which all parent types are named, at every
level, if there are not too many. -/
theorem check_accepts_grammar (levels : Nat) :
    (∀ value, (∃ requirement, check levels value = .ok requirement) ↔
      value.StatesRequirement ∧ value.levels ≤ levels) ∧
    (∀ value requirement, check levels value = .ok requirement →
      check levels requirement.toValue = .ok requirement) ∧
    ∀ requirement : Requirement, check levels requirement.toValue = .ok requirement ↔
      (∀ parent ∈ requirement.parentTypes, parent ≠ "") ∧
        requirement.toValue.levels ≤ levels := by
  have hwritten : ∀ requirement : Requirement,
      (∀ parent ∈ requirement.parentTypes, parent ≠ "") → requirement.toValue.levels ≤ levels →
      check levels requirement.toValue = .ok requirement := fun requirement hnamed hlevels =>
    check_eq_ok_iff.mpr ⟨Entry.describedBy_toValue requirement.entry hnamed, hlevels⟩
  refine ⟨exists_check_iff levels, fun value requirement hcheck => ?_, fun requirement => ?_⟩
  · obtain ⟨hdescribed, hlevels⟩ := check_eq_ok_iff.mp hcheck
    exact hwritten requirement (Entry.ne_of_mem_parentTypes requirement.entry hdescribed)
      (Entry.levels_toValue_le requirement.entry hdescribed hlevels)
  · refine ⟨fun hcheck => ?_, fun h => hwritten requirement h.1 h.2⟩
    obtain ⟨hdescribed, hlevels⟩ := check_eq_ok_iff.mp hcheck
    exact ⟨Entry.ne_of_mem_parentTypes requirement.entry hdescribed, hlevels⟩

/-- A loop, under the second key, that contains a plain type and a branch with no entries. -/
def loopObject : Value :=
  .object [("contains", .array [.string "ReturnStatement",
    .object [("type", .string "IfStatement")]]), ("parent_type", .string "WhileStatement")]

theorem check_accepts_loopObject :
    check 2 loopObject =
      .ok ⟨"WhileStatement", [.type "ReturnStatement", .nested "IfStatement" []]⟩ ∧
    loopObject.StatesRequirement ∧
    check 2 (toValue ⟨"WhileStatement", [.type "ReturnStatement", .nested "IfStatement" []]⟩) =
      .ok ⟨"WhileStatement", [.type "ReturnStatement", .nested "IfStatement" []]⟩ ∧
    (∀ requirement, check 1 loopObject ≠ .ok requirement) ∧
    ∀ requirement, check 2 (.object [("type", .string "WhileStatement"),
      ("parent_type", .string "WhileStatement")]) ≠ .ok requirement := by
  have hcheck : check 2 loopObject =
      .ok ⟨"WhileStatement", [.type "ReturnStatement", .nested "IfStatement" []]⟩ := rfl
  refine ⟨hcheck, ((check_accepts_grammar 2).1 _).mp ⟨_, hcheck⟩ |>.1,
    (check_accepts_grammar 2).2.1 _ _ hcheck, fun requirement hdeep => ?_,
    fun requirement hboth => ?_⟩
  · obtain ⟨-, hlevels⟩ := ((check_accepts_grammar 1).1 _).mp ⟨requirement, hdeep⟩
    revert hlevels
    decide
  · obtain ⟨⟨hone, -⟩, -⟩ := ((check_accepts_grammar 2).1 _).mp ⟨requirement, hboth⟩
    exact hone (by decide)

end Requirement

end Rubric
