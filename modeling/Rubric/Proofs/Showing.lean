import Mathlib.Data.List.Forall2
import Rubric.Value.Shown

/-!
# What can be shown

Two measures of a value decide whether it can be shown: how many values stand in one another
(`Value.nesting`), and whether an integer has too many digits. `exists_shown_iff` states so for all
room that there may be. If a value exceeds both, the fault is whichever is met first, but no fault
is found without its reason (`Value.fails_shown`).
-/

namespace Rubric

/-! ## Results that may be missing -/

theorem bind_eq_ok_iff {ε α β : Type} {first : Except ε α} {next : α → Except ε β} {y : β} :
    (first >>= next) = .ok y ↔ ∃ x, first = .ok x ∧ next x = .ok y := by
  cases first with
  | ok x => simp [bind, Except.bind]
  | error fault => simp [bind, Except.bind]

theorem mapM_eq_ok_iff {ε α β : Type} {f : α → Except ε β} {xs : List α} {ys : List β} :
    xs.mapM f = .ok ys ↔ List.Forall₂ (fun x y => f x = .ok y) xs ys := by
  constructor
  · intro h
    induction xs generalizing ys with
    | nil =>
        cases h
        exact .nil
    | cons x xs ih =>
        rw [List.mapM_cons] at h
        obtain ⟨y, hy, h⟩ := bind_eq_ok_iff.mp h
        obtain ⟨rest, hrest, h⟩ := bind_eq_ok_iff.mp h
        cases h
        exact .cons hy (ih hrest)
  · intro h
    induction h with
    | nil => rfl
    | cons hx _ ih =>
        rw [List.mapM_cons, hx, ih]
        rfl

/-- A text, or a fault for which there is a reason. -/
inductive Fails {α : Type} (shown long deep : Prop) : Except Unshowable α → Prop
  | not {x : α} (h : shown) : Fails shown long deep (.ok x)
  | oversized (h : long) : Fails shown long deep (.error .oversized)
  | tooDeep (h : deep) : Fails shown long deep (.error .tooDeep)

namespace Fails

variable {α β : Type} {shown long deep shown' long' deep' : Prop} {first : Except Unshowable α}

theorem map (h : Fails shown long deep first) (f : α → β) :
    Fails shown long deep (first.map f) := by
  cases h with
  | not h => exact .not h
  | oversized h => exact .oversized h
  | tooDeep h => exact .tooDeep h

theorem bind (h : Fails shown long deep first) {next : α → Except Unshowable β}
    (hnext : ∀ x, Fails shown' long' deep' (next x)) :
    Fails (shown ∧ shown') (long ∨ long') (deep ∨ deep') (first >>= next) := by
  cases h with
  | oversized h => exact .oversized (.inl h)
  | tooDeep h => exact .tooDeep (.inl h)
  | @not x h =>
      show Fails _ _ _ (next x)
      cases hsecond : next x with
      | ok y =>
          cases hsecond ▸ hnext x with
          | not h' => exact .not ⟨h, h'⟩
      | error fault =>
          cases hsecond ▸ hnext x with
          | oversized h' => exact .oversized (.inr h')
          | tooDeep h' => exact .tooDeep (.inr h')

theorem imp (h : Fails shown long deep first) (hshown : shown → shown') (hlong : long → long')
    (hdeep : deep → deep') : Fails shown' long' deep' first := by
  cases h with
  | not h => exact .not (hshown h)
  | oversized h => exact .oversized (hlong h)
  | tooDeep h => exact .tooDeep (hdeep h)

end Fails

namespace Value

/-! ## Two measures -/

mutual

/-- How many values stand in one another. -/
def nesting : Value → Nat
  | .array items => mostNesting items + 1
  | .object members => memberNesting members + 1
  | _ => 1

def mostNesting : List Value → Nat
  | [] => 0
  | value :: rest => max (nesting value) (mostNesting rest)

def memberNesting : List (String × Value) → Nat
  | [] => 0
  | (_, value) :: rest => max (nesting value) (memberNesting rest)

end

theorem nesting_array_le_iff {items : List Value} {n : Nat} :
    (Value.array items).nesting ≤ n + 1 ↔ ∀ item ∈ items, item.nesting ≤ n := by
  rw [nesting, Nat.add_le_add_iff_right]
  induction items with
  | nil => simp [mostNesting]
  | cons item items ih => rw [mostNesting, Nat.max_le, ih, List.forall_mem_cons]

theorem nesting_object_le_iff {members : Members} {n : Nat} :
    (Value.object members).nesting ≤ n + 1 ↔ ∀ member ∈ members, member.2.nesting ≤ n := by
  rw [nesting, Nat.add_le_add_iff_right]
  induction members with
  | nil => simp [memberNesting]
  | cons member members ih => rw [memberNesting, Nat.max_le, ih, List.forall_mem_cons]

theorem nesting_pos (value : Value) : 0 < value.nesting := by
  cases value <;> simp [nesting]

theorem isOversized_int (n : Int) : (Value.int n).isOversized = Text.isOversized n := by
  rw [isOversized]

theorem isOversized_string (s : String) : (Value.string s).isOversized = false := by
  simp [isOversized]

theorem isOversized_bool (b : Bool) : (Value.bool b).isOversized = false := by
  simp [isOversized]

theorem isOversized_array {items : List Value} :
    (Value.array items).isOversized = false ↔ ∀ item ∈ items, item.isOversized = false := by
  rw [isOversized]
  induction items with
  | nil => simp [anyOversized]
  | cons item items ih => simp [anyOversized, ih]

theorem isOversized_object {members : Members} :
    (Value.object members).isOversized = false ↔
      ∀ member ∈ members, member.2.isOversized = false := by
  rw [isOversized]
  induction members with
  | nil => simp [anyMemberOversized]
  | cons member members ih => simp [anyMemberOversized, ih]

/-! ## Showing -/

/-- A value can be shown with some room. -/
def Showable (room : Nat) (value : Value) : Prop :=
  value.nesting ≤ room ∧ value.isOversized = false

/-- Why the text of a value may be missing. -/
abbrev FailsAt (room : Nat) (value : Value) {α : Type} : Except Unshowable α → Prop :=
  Fails (value.Showable room) (value.isOversized = true) (room < value.nesting)

theorem fails_shownItems {room : Nat} {items : List Value}
    (h : ∀ item ∈ items, item.FailsAt room (item.shown room)) :
    Fails (∀ item ∈ items, item.Showable room) (∃ item ∈ items, item.isOversized = true)
      (∃ item ∈ items, room < item.nesting) (shownItems room items) := by
  induction items with
  | nil => exact .not nofun
  | cons item items ih =>
      rw [List.forall_mem_cons] at h
      rw [shownItems]
      have hrest := ih h.2
      refine (h.1.bind fun text => hrest.map (text :: ·)).imp ?_ ?_ ?_
      · exact List.forall_mem_cons.mpr
      · simp
      · simp

theorem fails_shownMembers {room : Nat} {members : Members}
    (h : ∀ member ∈ members, member.2.FailsAt room (member.2.shown room)) :
    Fails (∀ member ∈ members, member.2.Showable room)
      (∃ member ∈ members, member.2.isOversized = true)
      (∃ member ∈ members, room < member.2.nesting) (shownMembers room members) := by
  induction members with
  | nil => exact .not nofun
  | cons member members ih =>
      rw [List.forall_mem_cons] at h
      rw [shownMembers]
      have hrest := ih h.2
      refine (h.1.bind fun text =>
        hrest.map ((Text.quoted member.1 ++ ": " ++ text) :: ·)).imp ?_ ?_ ?_
      · exact fun h => List.forall_mem_cons.mpr h
      · simp
      · simp

theorem fails_decimal (n : Int) (deep : Prop) :
    Fails (Text.isOversized n = false) (Text.isOversized n = true) deep (Text.decimal n) := by
  rw [Text.decimal]
  cases Text.isOversized n with
  | true => exact .oversized rfl
  | false => exact .not rfl

/-- The text of a value is missing only for a reason. -/
theorem fails_shown : (room : Nat) → (value : Value) → value.FailsAt room (value.shown room)
  | 0, value => by
      rw [shown]
      exact .tooDeep value.nesting_pos
  | room + 1, .int n => by
      rw [shown]
      refine (fails_decimal n _).imp (fun h => ⟨?_, ?_⟩) (fun h => ?_) id
      · rw [nesting]
        · omega
        all_goals exact nofun
      · rwa [isOversized_int]
      · rwa [isOversized_int]
  | room + 1, .array items => by
      rw [shown]
      refine ((fails_shownItems fun item hitem => ?_).map _).imp (fun h => ⟨?_, ?_⟩) ?_ ?_
      · have hsize := List.sizeOf_lt_of_mem hitem
        exact fails_shown room item
      · exact nesting_array_le_iff.mpr fun item hitem => (h item hitem).1
      · exact isOversized_array.mpr fun item hitem => (h item hitem).2
      · rintro ⟨item, hitem, hlong⟩
        rw [← Bool.not_eq_false, isOversized_array]
        exact fun hall => by simp [hall item hitem] at hlong
      · rintro ⟨item, hitem, hdeep⟩
        rw [← Nat.not_le, nesting_array_le_iff]
        exact fun hall => Nat.not_le.mpr hdeep (hall item hitem)
  | room + 1, .object members => by
      rw [shown]
      refine ((fails_shownMembers fun member hmember => ?_).map _).imp (fun h => ⟨?_, ?_⟩) ?_ ?_
      · obtain ⟨key, value⟩ := member
        have hsize : 1 + sizeOf key + sizeOf value < sizeOf members :=
          List.sizeOf_lt_of_mem hmember
        exact fails_shown room value
      · exact nesting_object_le_iff.mpr fun member hmember => (h member hmember).1
      · exact isOversized_object.mpr fun member hmember => (h member hmember).2
      · rintro ⟨member, hmember, hlong⟩
        rw [← Bool.not_eq_false, isOversized_object]
        exact fun hall => by simp [hall member hmember] at hlong
      · rintro ⟨member, hmember, hdeep⟩
        rw [← Nat.not_le, nesting_object_le_iff]
        exact fun hall => Nat.not_le.mpr hdeep (hall member hmember)
  | room + 1, .null | room + 1, .bool _ | room + 1, .float _ | room + 1, .string _
  | room + 1, .moment _ => by
      rw [shown]
      exact .not ⟨by simp [nesting], by simp [isOversized]⟩
termination_by _ value => sizeOf value

/-- A value has a text exactly if there is room for what stands in it and no integer in it has too
many digits. -/
theorem exists_shown_iff {room : Nat} {value : Value} :
    (∃ text, value.shown room = .ok text) ↔ value.Showable room := by
  have hfails := fails_shown room value
  constructor
  · rintro ⟨text, htext⟩
    rw [htext] at hfails
    cases hfails with
    | not h => exact h
  · rintro ⟨hroom, hshort⟩
    cases hshown : value.shown room with
    | ok text => exact ⟨text, rfl⟩
    | error fault =>
        rw [hshown] at hfails
        cases hfails with
        | oversized h => simp [hshort] at h
        | tooDeep h => omega

end Value

end Rubric
