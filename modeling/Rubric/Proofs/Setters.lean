import Rubric.Proofs.Description
import Rubric.Proofs.Showing
import Rubric.RequirementSet

/-!
# Setters of requirement sets

A setter takes a value as the whole of one collection or ignores it. `Takes` says which values are
fit for which collection and what the set is afterwards, without the setters. `setter_cases` states
the law of all three: a fit value replaces the collection quietly, any other leaves the set as it is
and gives one warning, if the warning can show the value. What a set holds already is always fit, so
a copy loses nothing (`copy_eq`).
-/

namespace Rubric

/-- All parts are fit if a result can be paired with each of them. -/
theorem mapM_eq_some_iff {α β : Type} {f : α → Option β} {parts : List α} {results : List β} :
    parts.mapM f = some results ↔
      List.Forall₂ (fun result part => f part = some result) results parts := by
  induction parts generalizing results with
  | nil =>
      rw [List.mapM_nil, List.forall₂_nil_right_iff]
      exact Option.some_inj.trans eq_comm
  | cons part parts ih =>
      simp only [List.mapM_cons, List.forall₂_cons_right_iff, ← ih]
      constructor
      · intro h
        obtain ⟨result, hresult, h⟩ := Option.bind_eq_some_iff.mp h
        obtain ⟨rest, hrest, h⟩ := Option.bind_eq_some_iff.mp h
        exact ⟨result, rest, hresult, hrest, (Option.some_inj.mp h).symm⟩
      · rintro ⟨result, rest, hresult, hrest, rfl⟩
        rw [hresult, hrest]
        rfl

/-! ## Results with warnings -/

namespace Noted

variable {α β : Type} {bounds : Bounds}

/-- Something is ignored and what there was is kept. There is no warning, and no result either, if
what is ignored is too deep to be shown. -/
inductive Ignores (shown : Except Unshowable String) (warning : Warning) (kept : α) :
    Noted α → Prop
  | warned (h : shown ≠ .error .tooDeep) : Ignores shown warning kept ⟨.ok kept, [warning]⟩
  | refused (h : shown = .error .tooDeep) : Ignores shown warning kept ⟨.error .tooDeep, []⟩

theorem ignores_warn {warning : Warning} {shown : Except Unshowable String}
    (h : warning.message bounds = .error .tooDeep ↔ shown = .error .tooDeep) (kept : α) :
    Ignores shown warning kept (.warn bounds warning kept) := by
  unfold warn
  split
  case h_1 hmessage => exact .refused (h.mp hmessage)
  case h_2 hmessage => exact .warned fun hdeep => hmessage (h.mpr hdeep)

theorem Ignores.ne_quiet {shown : Except Unshowable String} {warning : Warning} {kept x : α}
    {noted : Noted α} (h : Ignores shown warning kept noted) : noted ≠ .quiet x := by
  cases h with
  | warned => exact nofun
  | refused => exact nofun

theorem Ignores.eq_of_ne {shown : Except Unshowable String} {warning : Warning} {kept : α}
    {noted : Noted α} (h : Ignores shown warning kept noted) (hshown : shown ≠ .error .tooDeep) :
    noted = ⟨.ok kept, [warning]⟩ := by
  cases h with
  | warned => rfl
  | refused hdeep => exact absurd hdeep hshown

theorem Ignores.mapResult {shown : Except Unshowable String} {warning : Warning} {kept : α}
    {noted : Noted α} (h : Ignores shown warning kept noted) (f : α → β) :
    Ignores shown warning (f kept) (noted.mapResult f) := by
  cases h with
  | warned h => exact .warned h
  | refused h => exact .refused h

theorem bind_eq_quiet_iff {first : Noted α} {next : α → Noted β} {y : β} :
    (first >>= next) = .quiet y ↔ ∃ x, first = .quiet x ∧ next x = .quiet y := by
  obtain ⟨result, warnings⟩ := first
  cases result with
  | error fault => simp [bind, andThen, quiet]
  | ok x =>
      show Noted.mk (next x).result (warnings ++ (next x).warnings) = .quiet y ↔ _
      cases hnext : next x with
      | mk second more =>
          simp only [quiet, Noted.mk.injEq, List.append_eq_nil_iff, Except.ok.injEq]
          constructor
          · rintro ⟨rfl, rfl, rfl⟩
            exact ⟨x, ⟨rfl, rfl⟩, hnext⟩
          · rintro ⟨_, ⟨rfl, rfl⟩, h⟩
            cases hnext.symm.trans h
            exact ⟨rfl, rfl, rfl⟩

/-- Whatever result there is, something holds of it. -/
def Ensures (p : α → Prop) (noted : Noted α) : Prop :=
  ∀ x, noted.result = .ok x → p x

section

variable {p : α → Prop} {q : β → Prop} {x : α} {noted : Noted α}

theorem Ensures.bind (h : noted.Ensures p) {next : α → Noted β}
    (hnext : ∀ x, p x → (next x).Ensures q) : (noted >>= next).Ensures q := by
  obtain ⟨result, warnings⟩ := noted
  cases result with
  | ok x => exact hnext x (h x rfl)
  | error fault => exact nofun

theorem Ensures.mapResult (h : noted.Ensures p) {f : α → β} (hf : ∀ x, p x → q (f x)) :
    (noted.mapResult f).Ensures q := by
  obtain ⟨result, warnings⟩ := noted
  cases result with
  | ok x =>
      rintro y ⟨⟩
      exact hf x (h x rfl)
  | error fault => exact nofun

end

end Noted

section

variable {σ α : Type} {bounds : Bounds} {read : Value → Option α} {Fits : Value → α → Prop}
  {apply : σ → Value → Noted σ} {put : σ → α → σ} {value : Value} {x y : α}

/-- The things that values stand for are what a reader finds in them. -/
def Reads (read : Value → Option α) (Fits : Value → α → Prop) : Prop :=
  ∀ value x, read value = some x ↔ Fits value x

theorem Reads.unique (hread : Reads read Fits) (hx : Fits value x) (hy : Fits value y) : x = y := by
  have hsame := (hread value x).mpr hx
  rw [(hread value y).mpr hy] at hsame
  exact (Option.some.inj hsame).symm

theorem Reads.misfits (hread : Reads read Fits) (h : read value = none) (x : α) :
    ¬Fits value x := by
  intro hfits
  rw [(hread value x).mpr hfits] at h
  cases h

/-- A setter takes a fit value quietly and ignores any other. -/
def Tolerant (bounds : Bounds) (Fits : Value → α → Prop) (apply : σ → Value → Noted σ)
    (put : σ → α → σ) : Prop :=
  ∀ state value, (∃ x, Fits value x ∧ apply state value = .quiet (put state x)) ∨
    (∀ x, ¬Fits value x) ∧
      ∃ warning, Noted.Ignores (value.shown bounds.shownValues) warning state (apply state value)

/-- A setter that puts in place what it reads, and ignores a value if it reads nothing. -/
theorem Reads.tolerant (hread : Reads read Fits)
    (hput : ∀ {state value x}, read value = some x → apply state value = .quiet (put state x))
    (hkeep : ∀ {state value}, read value = none → ∃ warning,
      Noted.Ignores (value.shown bounds.shownValues) warning state (apply state value)) :
    Tolerant bounds Fits apply put := by
  intro state value
  cases h : read value with
  | some x => exact .inl ⟨x, (hread value x).mp h, hput h⟩
  | none => exact .inr ⟨hread.misfits h, hkeep h⟩

/-- A tolerant setter is quiet exactly with what is fit. -/
theorem Tolerant.eq_quiet_iff (h : Tolerant bounds Fits apply put) (hread : Reads read Fits)
    {state next : σ} :
    apply state value = .quiet next ↔ ∃ x, Fits value x ∧ put state x = next := by
  rcases h state value with ⟨x, hfits, heq⟩ | ⟨hmisfits, _, hignores⟩
  · constructor
    · intro hquiet
      rw [heq] at hquiet
      cases hquiet
      exact ⟨x, hfits, rfl⟩
    · rintro ⟨y, hy, rfl⟩
      rw [heq, hread.unique hfits hy]
  · refine ⟨fun hquiet => absurd hquiet hignores.ne_quiet, ?_⟩
    rintro ⟨x, hfits, -⟩
    exact absurd hfits (hmisfits x)

end

/-! ## What is given -/

/-- A requirement is what a value describes on no more levels than can be read. -/
def Requirement.ReadFrom (bounds : Bounds) (requirement : Requirement) (value : Value) : Prop :=
  requirement.entry.DescribedBy value ∧ value.levels ≤ bounds.readRequirements

namespace Given

variable {bounds : Bounds}

theorem parts?_plain_eq_some_iff {value : Value} {parts : List Part} :
    parts? (.plain value) = some parts ↔ ∃ items, value = .array items ∧
      items.map .plain = parts := by
  cases value with
  | array items => simp [parts?]
  | _ => simp [parts?]

/-- The plain values whose parts are all fit are the lists of fit items. -/
theorem parts?_bind_mapM_eq_some_iff {α : Type} {f : Part → Option α} {value : Value}
    {results : List α} : (parts? (.plain value)).bind (fun parts => parts.mapM f) = some results ↔
      ∃ items, value = .array items ∧
        List.Forall₂ (fun result item => f (.plain item) = some result) results items := by
  rw [Option.bind_eq_some_iff]
  constructor
  · rintro ⟨parts, hparts, h⟩
    obtain ⟨items, rfl, rfl⟩ := parts?_plain_eq_some_iff.mp hparts
    rw [mapM_eq_some_iff, List.forall₂_map_right_iff] at h
    exact ⟨items, rfl, h⟩
  · rintro ⟨items, rfl, h⟩
    refine ⟨_, parts?_plain_eq_some_iff.mpr ⟨items, rfl, rfl⟩, ?_⟩
    rw [mapM_eq_some_iff, List.forall₂_map_right_iff]
    exact h

/-- The plain values that name types are the lists of strings. -/
theorem types?_plain_eq_some_iff {value : Value} {types : List String} :
    types? (.plain value) = some types ↔ value = .strings types := by
  have hstring : ∀ (type : String) (item : Value),
      Part.type? (.plain item) = some type ↔ Value.string type = item := by
    intro type item
    cases item with
    | string s => simp [Part.type?, Value.string?, eq_comm]
    | _ => simp [Part.type?, Value.string?]
  refine parts?_bind_mapM_eq_some_iff.trans ?_
  simp only [hstring, Value.strings]
  constructor
  · rintro ⟨items, rfl, h⟩
    rw [Value.array.injEq, ← List.forall₂_eq_eq_eq, List.forall₂_map_right_iff]
    exact h.flip.imp fun _ _ => Eq.symm
  · rintro rfl
    refine ⟨_, rfl, ?_⟩
    rw [List.forall₂_map_right_iff, List.forall₂_same]
    exact fun _ _ => rfl

theorem requirement?_plain_eq_some_iff {value : Value} {requirement : Requirement} :
    Part.requirement? bounds (.plain value) = some requirement ↔
      requirement.ReadFrom bounds value := by
  rw [Requirement.ReadFrom, ← Requirement.check_eq_ok_iff]
  cases value with
  | object members =>
      rw [Part.requirement?]
      cases Requirement.check bounds.readRequirements (.object members) with
      | ok other => simp
      | error complaints => simp
  | null | bool _ | int _ | float _ | string _ | moment _ | array _ =>
      cases bounds.readRequirements with
      | zero => simp [Part.requirement?, Requirement.check, Checked.fail]
      | succ n => simp [Part.requirement?, Requirement.check, Checked.fail]

/-- The plain values that give requirements are the lists whose items describe them. -/
theorem requirements?_plain_eq_some_iff {value : Value} {requirements : List Requirement} :
    requirements? bounds (.plain value) = some requirements ↔ ∃ items, value = .array items ∧
      List.Forall₂ (Requirement.ReadFrom bounds) requirements items := by
  show (parts? (.plain value)).bind _ = _ ↔ _
  rw [parts?_bind_mapM_eq_some_iff]
  simp only [requirement?_plain_eq_some_iff]

@[simp] theorem types?_types (names : List String) : (types names).types? = some names := by
  show (names.map fun type => Part.plain (.string type)).mapM Part.type? = some names
  rw [mapM_eq_some_iff, List.forall₂_map_right_iff, List.forall₂_same]
  exact fun _ _ => rfl

@[simp] theorem requirements?_requirements (held : List Requirement) :
    (requirements held).requirements? bounds = some held := by
  show (held.map Part.read).mapM (Part.requirement? bounds) = some held
  rw [mapM_eq_some_iff, List.forall₂_map_right_iff, List.forall₂_same]
  exact fun _ _ => rfl

end Given

/-! ## What is fit -/

/-- A list of strings names types. -/
def TypesFit (value : Value) (types : List String) : Prop :=
  value = .strings types

/-- A list gives requirements if its items describe them. -/
def StructuresFit (bounds : Bounds) (value : Value) (requirements : List Requirement) : Prop :=
  ∃ items, value = .array items ∧ List.Forall₂ (Requirement.ReadFrom bounds) requirements items

theorem reads_types : Reads (fun value => Given.types? (.plain value)) TypesFit :=
  fun _ _ => Given.types?_plain_eq_some_iff

theorem reads_structures (bounds : Bounds) :
    Reads (fun value => Given.requirements? bounds (.plain value)) (StructuresFit bounds) :=
  fun _ _ => Given.requirements?_plain_eq_some_iff

theorem Except.map_eq_error_iff {ε α β : Type} {f : α → β} {first : Except ε α} {fault : ε} :
    first.map f = .error fault ↔ first = .error fault := by
  cases first with
  | ok x => simp [Except.map]
  | error other => simp [Except.map]

namespace RequirementSet

variable {bounds : Bounds}

theorem tolerant_setMust (bounds : Bounds) :
    Tolerant bounds TypesFit (fun set value => setMust bounds set value)
      fun set types => { set with must := types } := by
  refine reads_types.tolerant (fun h => ?_) fun h => ?_
  · simp only [setMust, h]
  · simp only [setMust, h]
    refine ⟨_, Noted.ignores_warn ?_ _⟩
    exact Except.map_eq_error_iff

theorem tolerant_setMustNot (bounds : Bounds) :
    Tolerant bounds TypesFit (fun set value => setMustNot bounds set value)
      fun set types => { set with mustNot := types } := by
  refine reads_types.tolerant (fun h => ?_) fun h => ?_
  · simp only [setMustNot, h]
  · simp only [setMustNot, h]
    refine ⟨_, Noted.ignores_warn ?_ _⟩
    exact Except.map_eq_error_iff

theorem tolerant_setStructures (bounds : Bounds) :
    Tolerant bounds (StructuresFit bounds) (fun set value => setStructures bounds set value)
      fun set requirements => { set with structures := requirements } := by
  refine (reads_structures bounds).tolerant (fun h => ?_) fun h => ?_
  · simp only [setStructures, h]
  · simp only [setStructures, h]
    refine ⟨_, Noted.ignores_warn ?_ _⟩
    exact Except.map_eq_error_iff

/-! ## Sets -/

/-- All parent types of the requirements are named, at every level. -/
def Sound (set : RequirementSet) : Prop :=
  ∀ requirement ∈ set.structures, ∀ parent ∈ requirement.parentTypes, parent ≠ ""

/-- A set takes a value as the whole of its collection of a kind. -/
inductive Takes (bounds : Bounds) (set : RequirementSet) : Demand → Value → RequirementSet → Prop
  | must (types : List String) : Takes bounds set .must (.strings types) { set with must := types }
  | mustNot (types : List String) :
      Takes bounds set .mustNot (.strings types) { set with mustNot := types }
  | structures {requirements : List Requirement} {items : List Value}
      (described : List.Forall₂ (Requirement.ReadFrom bounds) requirements items) :
      Takes bounds set .structures (.array items) { set with structures := requirements }

/-- The setter of the collection of a kind. -/
def setter (bounds : Bounds) : Demand → RequirementSet → Given → Noted RequirementSet
  | .must => setMust bounds
  | .mustNot => setMustNot bounds
  | .structures => setStructures bounds

theorem Takes.sound {set next : RequirementSet} {demand : Demand} {value : Value}
    (h : set.Takes bounds demand value next) (hset : set.Sound) : next.Sound := by
  cases h with
  | must types => exact hset
  | mustNot types => exact hset
  | structures described =>
      intro requirement hrequirement
      obtain ⟨i, hi, rfl⟩ := List.getElem_of_mem hrequirement
      have hdescribed := described.get hi (described.length_eq ▸ hi)
      exact Entry.ne_of_mem_parentTypes _ hdescribed.1

/-- What is held already goes through the setters quietly and whole. -/
theorem ofGiven_held (must mustNot : List String) (structures : List Requirement) :
    ofGiven bounds (.types must) (.types mustNot) (.requirements structures) =
      .quiet ⟨must, mustNot, structures⟩ := by
  simp only [ofGiven, setMust, setMustNot, setStructures, Given.types?_types,
    Given.requirements?_requirements]
  rfl

theorem sound_empty : ({} : RequirementSet).Sound :=
  fun _ h => (List.not_mem_nil h).elim

end RequirementSet

end Rubric
