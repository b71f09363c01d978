import Rubric.Value

/-!
# Equality of values

Whether two values are the same, part by part. Numbers of different kinds are never the same, and
members are compared in order.
-/

namespace Rubric.Value

mutual

def same : Value → Value → Bool
  | .null, .null => true
  | .bool a, .bool b => a == b
  | .int m, .int n => m == n
  | .float x, .float y => x == y
  | .string s, .string t => s == t
  | .moment m, .moment n => m == n
  | .array items, .array others => sameItems items others
  | .object members, .object others => sameMembers members others
  | _, _ => false

def sameItems : List Value → List Value → Bool
  | [], [] => true
  | item :: items, other :: others => item.same other && sameItems items others
  | _, _ => false

/-- Whether two objects have the same members in the same order. -/
def sameMembers : Members → Members → Bool
  | [], [] => true
  | (key, value) :: members, (name, other) :: others =>
    key == name && value.same other && sameMembers members others
  | _, _ => false

end

mutual

theorem same_self (value : Value) : value.same value = true := by
  cases value with
  | array items => exact sameItems_self items
  | object members => exact sameMembers_self members
  | _ => simp [same]

theorem sameItems_self (items : List Value) : sameItems items items = true := by
  cases items with
  | nil => rfl
  | cons item items => rw [sameItems, same_self item, sameItems_self items, Bool.and_self]

theorem sameMembers_self (members : Members) : sameMembers members members = true := by
  cases members with
  | nil => rfl
  | cons member members =>
      rw [sameMembers, same_self member.2, sameMembers_self members, beq_self_eq_true,
        Bool.and_self, Bool.and_self]

end

mutual

theorem eq_of_same {value other : Value} (h : value.same other = true) : value = other := by
  cases value with
  | null =>
      cases other with
      | null => rfl
      | _ => cases h
  | bool a =>
      cases other with
      | bool b => rw [eq_of_beq h]
      | _ => cases h
  | int m =>
      cases other with
      | int n => rw [eq_of_beq h]
      | _ => cases h
  | float x =>
      cases other with
      | float y => rw [eq_of_beq h]
      | _ => cases h
  | string s =>
      cases other with
      | string t => rw [eq_of_beq h]
      | _ => cases h
  | moment m =>
      cases other with
      | moment n => rw [eq_of_beq h]
      | _ => cases h
  | array items =>
      cases other with
      | array others => rw [eq_of_sameItems h]
      | _ => cases h
  | object members =>
      cases other with
      | object others => rw [eq_of_sameMembers h]
      | _ => cases h

theorem eq_of_sameItems {items others : List Value} (h : sameItems items others = true) :
    items = others := by
  cases items with
  | nil =>
      cases others with
      | nil => rfl
      | cons other others => cases h
  | cons item items =>
      cases others with
      | nil => cases h
      | cons other others =>
          rw [sameItems, Bool.and_eq_true] at h
          rw [eq_of_same h.1, eq_of_sameItems h.2]

theorem eq_of_sameMembers {members others : Members} (h : sameMembers members others = true) :
    members = others := by
  cases members with
  | nil =>
      cases others with
      | nil => rfl
      | cons other others => cases h
  | cons member members =>
      cases others with
      | nil => cases h
      | cons other others =>
          rw [sameMembers, Bool.and_eq_true, Bool.and_eq_true] at h
          rw [Prod.ext (eq_of_beq h.1.1) (eq_of_same h.1.2), eq_of_sameMembers h.2]

end

instance : DecidableEq Value := fun value other =>
  decidable_of_iff (value.same other = true)
    ⟨eq_of_same, fun h => h ▸ same_self value⟩

end Rubric.Value
