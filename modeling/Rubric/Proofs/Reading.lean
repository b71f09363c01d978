import Mathlib.Data.List.Forall2
import Rubric.Checked

/-!
# Readings that succeed

When a reading made of others succeeds, and with what result. A reading that collects complaints
succeeds only if all of its parts do, so each combinator has one statement of the form "the result
is sound if and only if the parts are".
-/

namespace Rubric

namespace Members

theorem get?_cons (member : String × Value) (members : Members) (key : String) :
    Members.get? (member :: members) key =
      if member.1 = key then some member.2 else Members.get? members key := by
  obtain ⟨name, value⟩ := member
  rw [get?, List.lookup_cons]
  by_cases h : name = key
  · rw [if_pos h, h, beq_self_eq_true]
  · rw [if_neg h, beq_false_of_ne (Ne.symm h)]
    rfl

theorem has_eq_true_iff {members : Members} {key : String} :
    members.has key = true ↔ ∃ member ∈ members, member.1 = key := by
  simp only [has, List.any_eq_true, beq_iff_eq]

theorem get?_eq_none_iff {members : Members} {key : String} :
    members.get? key = none ↔ members.has key = false := by
  induction members with
  | nil => exact ⟨fun _ => rfl, fun _ => rfl⟩
  | cons member members ih =>
      rw [get?_cons, has, List.any_cons, Bool.or_eq_false_iff, beq_eq_false_iff_ne]
      by_cases h : member.1 = key
      · simp [h]
      · rw [if_neg h]
        exact ih.trans (iff_and_self.mpr fun _ => h)

theorem has_of_get?_eq_some {members : Members} {key : String} {value : Value}
    (h : members.get? key = some value) : members.has key = true := by
  by_contra hnot
  rw [get?_eq_none_iff.mpr (Bool.eq_false_iff.mpr hnot)] at h
  cases h

theorem exists_get?_of_has {members : Members} {key : String} (h : members.has key = true) :
    ∃ value, members.get? key = some value := by
  cases hget : members.get? key with
  | some value => exact ⟨value, rfl⟩
  | none =>
      rw [get?_eq_none_iff, h] at hget
      cases hget

theorem has_eq_false_iff {members : Members} {key : String} :
    members.has key = false ↔ key ∉ members.map Prod.fst := by
  rw [← Bool.not_eq_true, has_eq_true_iff, List.mem_map]

theorem not_mem_of_nodup {read members : Members} {key : String} {value : Value}
    (h : ((read ++ (key, value) :: members).map Prod.fst).Nodup) : key ∉ read.map Prod.fst := by
  rw [List.map_append, List.nodup_append] at h
  exact fun hmem => h.2.2 key hmem key List.mem_cons_self rfl

theorem insert_eq_append {members : Members} {key : String} (h : key ∉ members.map Prod.fst)
    (value : Value) : members.insert key value = members ++ [(key, value)] := by
  rw [insert, has_eq_false_iff.mpr h]
  rfl

theorem get?_concat {members : Members} {key : String} (h : key ∉ members.map Prod.fst)
    (value : Value) : Members.get? (members ++ [(key, value)]) key = some value := by
  induction members with
  | nil =>
      rw [List.nil_append, get?_cons]
      exact if_pos rfl
  | cons member members ih =>
      rw [List.map_cons, List.mem_cons, not_or] at h
      rw [List.cons_append, get?_cons, if_neg (Ne.symm h.1)]
      exact ih h.2

theorem insert_concat {members : Members} {key : String} (h : key ∉ members.map Prod.fst)
    (value other : Value) :
    Members.insert (members ++ [(key, value)]) key other = members ++ [(key, other)] := by
  have hkept : members.map (fun m => if m.1 == key then (key, other) else m) = members := by
    conv_rhs => rw [← List.map_id members]
    refine List.map_congr_left fun member hmember => if_neg fun heq => h ?_
    exact beq_iff_eq.mp heq ▸ List.mem_map_of_mem hmember
  rw [insert, has_of_get?_eq_some (get?_concat h value), if_pos rfl, List.map_append, hkept]
  simp

end Members

namespace Checked

variable {α β : Type}

/-! ## Combinators -/

theorem map_eq_ok_iff {f : α → β} {reading : Checked α} {y : β} :
    reading.map f = .ok y ↔ ∃ x, reading = .ok x ∧ f x = y := by
  cases reading with
  | ok x =>
      constructor
      · intro h
        exact ⟨x, rfl, Except.ok.inj h⟩
      · rintro ⟨_, h, rfl⟩
        cases h
        rfl
  | error e =>
      constructor
      · intro h
        cases h
      · rintro ⟨_, h, -⟩
        cases h

theorem apply_eq_ok_iff {first : Checked (α → β)} {second : Checked α} {y : β} :
    first.apply second = .ok y ↔ ∃ f x, first = .ok f ∧ second = .ok x ∧ f x = y := by
  constructor
  · intro h
    match first, second, h with
    | .ok f, .ok x, h => exact ⟨f, x, rfl, rfl, Except.ok.inj h⟩
  · rintro ⟨f, x, rfl, rfl, rfl⟩
    rfl

theorem butFor_eq_ok_iff {reading : Checked α} {more : List Complaint} {x : α} :
    reading.butFor more = .ok x ↔ reading = .ok x ∧ more = [] := by
  constructor
  · intro h
    match reading, more, h with
    | .ok _, [], h => exact ⟨h, rfl⟩
  · rintro ⟨rfl, rfl⟩
    rfl

theorem within_eq_ok_iff {step : Step} {reading : Checked α} {x : α} :
    reading.within step = .ok x ↔ reading = .ok x := by
  cases reading with
  | ok y => rfl
  | error e =>
      constructor
      · intro h
        cases h
      · intro h
        cases h

/-! ## Scalars and lists -/

theorem text_eq_ok_iff {value : Value} {s : String} : text value = .ok s ↔ value = .string s := by
  cases value with
  | string other =>
      rw [text, Except.ok.injEq, Value.string.injEq]
  | _ =>
      constructor
      · intro h
        cases h
      · intro h
        cases h

theorem name_eq_ok_iff {value : Value} {s : String} :
    name value = .ok s ↔ value = .string s ∧ s ≠ "" := by
  cases value with
  | string other =>
      rw [name, Value.string.injEq]
      by_cases h : other = ""
      · subst h
        constructor
        · intro hname
          cases hname
        · rintro ⟨rfl, hne⟩
          exact absurd rfl hne
      · rw [if_neg (by simpa using h), Except.ok.injEq]
        exact iff_self_and.mpr fun heq => heq ▸ h
  | _ =>
      constructor
      · intro h
        cases h
      · rintro ⟨h, -⟩
        cases h

theorem itemsFrom_eq_ok_iff {read : Value → Checked α} {position : Nat} {values : List Value}
    {results : List α} :
    itemsFrom read position values = .ok results ↔
      List.Forall₂ (fun value result => read value = .ok result) values results := by
  induction values generalizing position results with
  | nil =>
      rw [itemsFrom, Except.ok.injEq, List.forall₂_nil_left_iff]
      exact eq_comm
  | cons value values ih =>
      simp only [itemsFrom, apply_eq_ok_iff, map_eq_ok_iff, within_eq_ok_iff, ih,
        List.forall₂_cons_left_iff]
      constructor
      · rintro ⟨_, rest, ⟨result, hresult, rfl⟩, hrest, rfl⟩
        exact ⟨result, rest, hresult, hrest, rfl⟩
      · rintro ⟨result, rest, hresult, hrest, rfl⟩
        exact ⟨_, rest, ⟨result, hresult, rfl⟩, hrest, rfl⟩

theorem items_eq_ok_iff {read : Value → Checked α} {value : Value} {results : List α} :
    items read value = .ok results ↔ ∃ values, value = .array values ∧
      List.Forall₂ (fun value result => read value = .ok result) values results := by
  cases value with
  | array values =>
      rw [items, itemsFrom_eq_ok_iff]
      constructor
      · intro h
        exact ⟨values, rfl, h⟩
      · rintro ⟨_, h, hresults⟩
        cases h
        exact hresults
  | _ =>
      constructor
      · intro h
        cases h
      · rintro ⟨_, h, -⟩
        cases h

/-! ## Fields -/

namespace Field

/-- A field goes by its key if the object has it, else by the other one. -/
theorem keyIn?_eq_some_iff {field : Field} {members : Members} {key : String} :
    field.keyIn? members = some key ↔
      (field.key = key ∨ members.has field.key = false ∧ field.other = some key) ∧
        members.has key = true := by
  unfold keyIn?
  cases hhas : members.has field.key with
  | true =>
      simp only [if_true, Option.some.injEq, Bool.true_eq_false, false_and, or_false]
      exact ⟨fun h => ⟨h, h ▸ hhas⟩, And.left⟩
  | false =>
      simp only [Bool.false_eq_true, if_false, Option.filter_eq_some_iff, true_and]
      constructor
      · rintro ⟨hother, h⟩
        exact ⟨.inr hother, h⟩
      · rintro ⟨rfl | hother, h⟩
        · rw [hhas] at h
          cases h
        · exact ⟨hother, h⟩

theorem has_of_keyIn?_eq_some {field : Field} {members : Members} {key : String}
    (h : field.keyIn? members = some key) : members.has key = true :=
  (keyIn?_eq_some_iff.mp h).2

/-- What an object holds for a field. -/
def held? (field : Field) (members : Members) : Option Value :=
  (field.keyIn? members).bind members.get?

theorem held?_alone (key : String) (members : Members) :
    held? { key } members = members.get? key := by
  unfold held? keyIn?
  cases hhas : members.has key with
  | true => rfl
  | false => exact (Members.get?_eq_none_iff.mpr hhas).symm

theorem held?_either (key other : String) (members : Members) :
    held? { key, other := some other } members =
      (members.get? key).or (members.get? other) := by
  unfold held? keyIn?
  cases hhas : members.has key with
  | true =>
      obtain ⟨value, hvalue⟩ := Members.exists_get?_of_has hhas
      simp [hvalue]
  | false =>
      rw [Members.get?_eq_none_iff.mpr hhas, Option.none_or]
      cases hother : members.has other with
      | true => simp [Option.filter_some, hother]
      | false => simp [Option.filter_some, hother, Members.get?_eq_none_iff.mpr hother]

/-- What is held, if anything, is read as a result; in its absence the result is given. -/
def ReadsAs (read : Value → Checked α) (absent : α) : Option Value → α → Prop
  | none, x => x = absent
  | some value, x => read value = .ok x

theorem optional_eq_ok_iff {field : Field} {members : Members} {absent x : α}
    {read : Value → Checked α} :
    field.optional members absent read = .ok x ↔
      ReadsAs read absent (field.held? members) x := by
  unfold optional held?
  cases hkey : field.keyIn? members with
  | none =>
      rw [Option.bind_none, Except.ok.injEq]
      exact eq_comm
  | some key =>
      obtain ⟨value, hvalue⟩ := Members.exists_get?_of_has (has_of_keyIn?_eq_some hkey)
      simp only [Option.bind_some, hvalue]
      exact within_eq_ok_iff

theorem required_eq_ok_iff {field : Field} {members : Members} {x : α}
    {read : Value → Checked α} :
    field.required members read = .ok x ↔
      ∃ key value, field.keyIn? members = some key ∧ members.get? key = some value ∧
        read value = .ok x := by
  unfold required
  cases hkey : field.keyIn? members with
  | none =>
      constructor
      · intro h
        cases h
      · rintro ⟨_, _, h, -⟩
        cases h
  | some key =>
      obtain ⟨value, hvalue⟩ := Members.exists_get?_of_has (has_of_keyIn?_eq_some hkey)
      simp only [hvalue, within_eq_ok_iff, Option.some.injEq]
      constructor
      · intro h
        exact ⟨key, value, rfl, hvalue, h⟩
      · rintro ⟨_, _, rfl, hget, h⟩
        cases hvalue.symm.trans hget
        exact h

end Field

/-- There are no strangers if every key is used by a field. -/
theorem strangers_eq_nil_iff {fields : List Field} {members : Members} :
    strangers fields members = [] ↔
      ∀ member ∈ members, ∃ field ∈ fields, field.keyIn? members = some member.1 := by
  simp only [strangers, List.map_eq_nil_iff, List.filter_eq_nil_iff, List.contains_iff_mem,
    Bool.not_eq_true', Bool.not_eq_false, List.mem_filterMap]

end Checked

end Rubric
