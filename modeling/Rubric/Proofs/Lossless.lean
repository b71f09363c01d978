import Rubric.Export
import Rubric.Proofs.JsonText
import Rubric.Proofs.Showing
import Rubric.Proofs.TomlDocument

/-!
# Exports lose nothing

An outcome that is exported can be read back (`json_lossless`, `toml_lossless`). The value that it
is written as holds all of it: checking that value gives the outcome again. What is written can in
turn be read as that value.
-/

namespace Rubric

/-! ## Values of outcomes -/

theorem Item.check_toValue (item : Item) : Item.check item.toValue = .ok item := by
  obtain ⟨type, passed, message⟩ := item
  cases type with
  | none => rfl
  | some type => rfl

theorem Checked.items_check_map (items : List Item) :
    Checked.items Item.check (.array (items.map Item.toValue)) = .ok items := by
  refine Checked.items_eq_ok_iff.mpr ⟨_, rfl, ?_⟩
  rw [List.forall₂_map_left_iff, List.forall₂_same]
  exact fun item _ => Item.check_toValue item

theorem Report.check_toValue (report : Report) : Report.check report.toValue = .ok report := by
  have hmust : Checked.Field.held? { key := "must" } report.members =
      some (.array (report.must.map Item.toValue)) := rfl
  have hmustNot : Report.mustNotField.held? report.members =
      some (.array (report.mustNot.map Item.toValue)) := rfl
  have hstructures : Checked.Field.held? { key := "structure" } report.members =
      some (.array (report.structures.map Item.toValue)) := rfl
  simp only [Report.toValue, Report.check, Checked.apply_eq_ok_iff, Checked.map_eq_ok_iff,
    Checked.Field.optional_eq_ok_iff, hmust, hmustNot, hstructures]
  exact ⟨_, _, ⟨_, _, ⟨_, Checked.items_check_map _, rfl⟩, Checked.items_check_map _, rfl⟩,
    Checked.items_check_map _, rfl⟩

theorem ParseFailure.check_toValue (failure : ParseFailure) :
    ParseFailure.check failure.toValue = .ok failure := by
  obtain ⟨message, line, column, index⟩ := failure
  -- Each of the eight ways to know some of the numbers is a table of its own.
  rcases line with _ | line <;> rcases column with _ | column <;>
    rcases index with _ | index <;> rfl

/-- Checking a value gives an outcome. -/
def Outcome.ChecksFrom (value : Value) : Outcome → Prop
  | .graded report => Report.check value = .ok report
  | .unparsed failure => ParseFailure.check value = .ok failure

theorem Outcome.checksFrom_toValue (outcome : Outcome) : outcome.ChecksFrom outcome.toValue := by
  cases outcome with
  | graded report => exact report.check_toValue
  | unparsed failure => exact failure.check_toValue

/-! ## Keys and values of outcomes -/

theorem Item.keys_sublist (item : Item) :
    (item.members.map Prod.fst).Sublist ["type", "pass", "message"] := by
  obtain ⟨type, passed, message⟩ := item
  cases type with
  | none =>
      show ["pass", "message"].Sublist _
      decide
  | some type => exact .refl _

theorem Report.keys_eq (report : Report) :
    report.members.map Prod.fst = ["must", "mustNot", "structure"] := rfl

theorem ParseFailure.keys_sublist (failure : ParseFailure) :
    (failure.members.map Prod.fst).Sublist ["error", "message", "line", "column", "index"] := by
  have hnumber : ∀ (key : String) (n : Option Int),
      ((member key n).map Prod.fst).Sublist [key] := by
    intro key n
    cases n with
    | none => exact List.nil_sublist _
    | some n => exact .refl _
  rw [ParseFailure.members, List.map_append, List.map_append, List.map_append]
  exact (((List.Sublist.refl ["error", "message"]).append (hnumber "line" _)).append
    (hnumber "column" _)).append (hnumber "index" _)

/-- The members of an item are texts and truth values. -/
theorem Item.forall_mem_members {p : Value → Prop} (hstring : ∀ s, p (.string s))
    (hbool : ∀ b, p (.bool b)) (item : Item) : ∀ member ∈ item.members, p member.2 := by
  obtain ⟨type, passed, message⟩ := item
  cases type with
  | none => simp [Item.members, hstring, hbool]
  | some type => simp [Item.members, hstring, hbool]

/-- The members of a parse failure are texts and numbers. -/
theorem ParseFailure.forall_mem_members {p : Value → Prop} (hstring : ∀ s, p (.string s))
    (hint : ∀ n, p (.int n)) (failure : ParseFailure) : ∀ member ∈ failure.members, p member.2 := by
  have hnumber : ∀ (key : String) (n : Option Int), ∀ entry ∈ member key n, p entry.2 := by
    intro key n entry hentry
    cases n with
    | none => cases hentry
    | some n =>
        cases List.mem_singleton.mp hentry
        exact hint n
  simp only [ParseFailure.members, List.forall_mem_append]
  refine ⟨⟨⟨?_, hnumber "line" _⟩, hnumber "column" _⟩, hnumber "index" _⟩
  simp [hstring]

/-! ## Numbers that are too long -/

theorem Report.isOversized_toValue (report : Report) : report.toValue.isOversized = false := by
  refine Value.isOversized_object.mpr fun member hmember => ?_
  obtain ⟨demand, -, rfl⟩ := List.mem_map.mp hmember
  refine Value.isOversized_array.mpr fun value hvalue => ?_
  obtain ⟨item, -, rfl⟩ := List.mem_map.mp hvalue
  exact Value.isOversized_object.mpr (item.forall_mem_members (p := (·.isOversized = false))
    Value.isOversized_string Value.isOversized_bool)

/-- No number of an outcome has too many digits to be written. -/
def Outcome.Writable (outcome : Outcome) : Prop :=
  ∀ key n, (key, .int n) ∈ outcome.members → Text.isOversized n = false

theorem Outcome.isOversized_eq_false_iff (outcome : Outcome) :
    outcome.toValue.isOversized = false ↔ outcome.Writable := by
  cases outcome with
  | graded report =>
      refine iff_of_true report.isOversized_toValue fun key n hmem => ?_
      obtain ⟨demand, -, heq⟩ := List.mem_map.mp hmem
      cases heq
  | unparsed failure =>
      refine Value.isOversized_object.trans ⟨fun h key n hmem => ?_, fun h => ?_⟩
      · rw [← Value.isOversized_int]
        exact h (key, .int n) hmem
      · rintro ⟨key, value⟩ hmem
        have hvalue : (∀ n, value = .int n → Text.isOversized n = false) →
            value.isOversized = false := by
          refine failure.forall_mem_members (p := fun value =>
            (∀ n, value = .int n → Text.isOversized n = false) → value.isOversized = false)
            (fun s _ => Value.isOversized_string s) (fun n hn => ?_) (key, value) hmem
          rw [Value.isOversized_int]
          exact hn n rfl
        exact hvalue fun n hn => h key n (hn ▸ hmem)

/-! ## JSON -/

theorem Item.exact_toValue (item : Item) : Json.Exact item.toValue :=
  .object (item.forall_mem_members .string .bool) (item.keys_sublist.nodup (by decide))

theorem Report.exact_toValue (report : Report) : Json.Exact report.toValue := by
  refine .object ?_ (report.keys_eq ▸ by decide)
  intro member hmember
  obtain ⟨demand, -, rfl⟩ := List.mem_map.mp hmember
  refine .array fun value hvalue => ?_
  obtain ⟨item, -, rfl⟩ := List.mem_map.mp hvalue
  exact item.exact_toValue

theorem ParseFailure.exact_toValue (failure : ParseFailure) : Json.Exact failure.toValue :=
  .object (failure.forall_mem_members .string .int) (failure.keys_sublist.nodup (by decide))

theorem Outcome.exact_toValue (outcome : Outcome) : Json.Exact outcome.toValue := by
  cases outcome with
  | graded report => exact report.exact_toValue
  | unparsed failure => exact failure.exact_toValue

/-- The JSON text of an outcome, in any layout, is read as the value of the outcome, and checking
that value gives the outcome back. The text is exported unless a number has too many digits. -/
theorem Outcome.json_lossless (indent : Option Nat) (outcome : Outcome) :
    Json.read (Json.render (.ofIndent indent) outcome.toValue) = some outcome.toValue ∧
    outcome.ChecksFrom outcome.toValue ∧
    ∀ text, outcome.json? (.ofIndent indent) = some text ↔
      outcome.Writable ∧ Json.render (.ofIndent indent) outcome.toValue = text := by
  refine ⟨?_, outcome.checksFrom_toValue, fun text => ?_⟩
  · exact Json.read_render (Json.Layout.blank_ofIndent indent) outcome.exact_toValue
  · rw [← outcome.isOversized_eq_false_iff, Outcome.json?]
    cases outcome.toValue.isOversized with
    | true => simp
    | false => simp

/-! ## TOML -/

theorem Toml.forall_bare {members : Members} {keys : List String}
    (h : (members.map Prod.fst).Sublist keys) (hkeys : keys.all Toml.isBare = true) :
    ∀ member ∈ members, Toml.Bare member.1 :=
  fun _ hmember => List.all_eq_true.mp hkeys _ (h.mem (List.mem_map_of_mem hmember))

theorem Item.row_members (item : Item) : Toml.Row item.members where
  scalars := item.forall_mem_members .string .bool
  bare := Toml.forall_bare item.keys_sublist (by decide)
  distinct := item.keys_sublist.nodup (by decide)

theorem Report.sheet_members (report : Report) : Toml.Sheet report.members where
  flat := by
    intro member hmember
    obtain ⟨demand, -, rfl⟩ := List.mem_map.mp hmember
    refine .rows fun value hvalue => ?_
    obtain ⟨item, -, rfl⟩ := List.mem_map.mp hvalue
    exact ⟨item.members, rfl, item.row_members⟩
  bare := Toml.forall_bare (List.Sublist.refl ["must", "mustNot", "structure"]) (by decide)
  distinct := report.keys_eq ▸ by decide

theorem ParseFailure.sheet_members {failure : ParseFailure}
    (h : failure.toValue.isOversized = false) : Toml.Sheet failure.members where
  flat := by
    intro member hmember
    refine failure.forall_mem_members
      (p := fun value => value.isOversized = false → Toml.Flat value)
      (fun s _ => .scalar (.string s)) (fun n hn => ?_) member hmember
      (Value.isOversized_object.mp h member hmember)
    rw [Value.isOversized_int] at hn
    exact .scalar (.int hn)
  bare := Toml.forall_bare failure.keys_sublist (by decide)
  distinct := failure.keys_sublist.nodup (by decide)

theorem Outcome.sheet_members {outcome : Outcome} (h : outcome.toValue.isOversized = false) :
    Toml.Sheet outcome.members := by
  cases outcome with
  | graded report => exact report.sheet_members
  | unparsed failure => exact failure.sheet_members h

/-- An outcome has a TOML text unless one of its numbers has too many digits. The text is TOML, and
is read as the members of the outcome up to their order. -/
theorem Outcome.toml_lossless (outcome : Outcome) :
    ((∃ text, outcome.toml? = some text) ↔ outcome.Writable) ∧
    ∀ text, outcome.toml? = some text →
      ∃ table, Toml.read text = .ok table ∧ table.Perm outcome.members := by
  rw [← outcome.isOversized_eq_false_iff]
  unfold Outcome.toml?
  cases h : outcome.toValue.isOversized with
  | true => simp
  | false =>
      refine ⟨iff_of_true ⟨_, rfl⟩ rfl, ?_⟩
      rintro text ⟨⟩
      exact ⟨_, Toml.read_render (outcome.sheet_members h),
        Toml.inline_append_sectioned_perm outcome.members⟩

/-- A report with a list that is written inline, one that gets sections and one that is empty. -/
def Outcome.mixed : Outcome :=
  .graded {
    must := [{ type := some "ForStatement", passed := true, message := "ok" }]
    mustNot := []
    structures := [{ passed := false, message := String.ofList (List.replicate 90 '"') }] }

theorem Outcome.toml_lossless_mixed :
    ∃ text table, Outcome.mixed.toml? = some text ∧ Toml.read text = .ok table ∧
      table.Perm Outcome.mixed.members := by
  have hwritable : Outcome.mixed.Writable := by
    rintro key n hmem
    obtain ⟨demand, -, heq⟩ := List.mem_map.mp hmem
    cases heq
  obtain ⟨text, htext⟩ := (Outcome.toml_lossless Outcome.mixed).1.mpr hwritable
  obtain ⟨table, hread, hperm⟩ := (Outcome.toml_lossless Outcome.mixed).2 text htext
  exact ⟨text, table, htext, hread, hperm⟩

end Rubric
