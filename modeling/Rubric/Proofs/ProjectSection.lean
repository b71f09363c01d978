import Rubric.Proofs.Equality
import Rubric.Proofs.Exported
import Rubric.Proofs.Showing
import Rubric.Proofs.Tolerance
import Rubric.Settings

/-!
# The section of a project file

Which project files have settings, and which settings. `StatedBy` says it without the reader: the
section `tool.proctor` is absent, or it is a table with known keys and fit values, and each setting
is the value under its key. What is wrong with any other section should be said in a message.

The reader keeps to this only where the section is looked into as a table. A value that counts as
false is taken for no section at all (`PassedOver`), and other values make it fail with nothing said
(`Unchecked`): if `tool` or the section is no table, or if a value that is to be shown is nested too
deep or holds a number with too many digits. `load_eq_ok_iff_statedBy` states that these are all the
exceptions.
-/

namespace Rubric.Settings

variable {bounds : Bounds} {root : Path} {project members : Members} {settings : Settings}
  {value : Value}

/-! ## What is stated -/

/-- The members of a section give settings: no key is unknown, and each setting is left out or is
what the value under its key stands for. -/
structure SetBy (root : Path) (members : Members) (settings : Settings) : Prop where
  known : ∀ member ∈ members, member.1 ∈ keys
  requirements : Option.Rel
    (fun value path => ∃ text, value = .string text ∧ path = root.join (Path.ofText text))
    (members.get? "requirements") settings.requirements
  depth : Option.Rel (fun value depth => value = .int depth.val)
    (members.get? "recursion_depth") settings.depth
  goal : Option.Rel (fun value goal => value = .string goal.name)
    (members.get? "source_type") settings.goal
  projectRoot : settings.projectRoot = some root

/-- A project file gives settings: it has no section, or one that is a table and gives them. -/
inductive StatedBy (root : Path) (project : Members) : Settings → Prop
  | noTool (absent : project.get? "tool" = none) :
      StatedBy root project { projectRoot := some root }
  | noSection {tool : Members} (held : project.get? "tool" = some (.object tool))
      (absent : tool.get? "proctor" = none) :
      StatedBy root project { projectRoot := some root }
  | table {tool members : Members} {settings : Settings}
      (held : project.get? "tool" = some (.object tool))
      (there : tool.get? "proctor" = some (.object members))
      (set : SetBy root members settings) : StatedBy root project settings

/-! ## What is not checked -/

/-- A value that is no table and counts as false. -/
inductive Void : Value → Prop
  | null : Void .null
  | bool : Void (.bool false)
  | int : Void (.int 0)
  | float {x : Binary64} (zero : x.isZero = true) : Void (.float x)
  | string : Void (.string "")
  | array : Void (.array [])

/-- A value that is no table, counts as true and has no keys of which one could be unknown. -/
inductive Shapeless : Value → Prop
  | bool : Shapeless (.bool true)
  | int {n : Int} (nonzero : n ≠ 0) : Shapeless (.int n)
  | float {x : Binary64} (nonzero : x.isZero = false) : Shapeless (.float x)
  | moment (m : Moment) : Shapeless (.moment m)
  | mixed {items : List Value} (other : ∀ names, Value.array items ≠ .strings names) :
      Shapeless (.array items)
  | known {names : List String} (some : names ≠ []) (known : ∀ name ∈ names, name ∈ keys) :
      Shapeless (.strings names)

/-- The value of a setting that is not fit and is to be shown, because all that is looked at before
it is fit. -/
inductive Shown (members : Members) : Value → Prop
  | depth {value : Value} (known : ∀ member ∈ members, member.1 ∈ keys)
      (requirements : ∀ value, members.get? "requirements" = some value →
        ∃ text, value = .string text)
      (held : members.get? "recursion_depth" = some value)
      (unfit : ∀ depth : Depth, value ≠ .int depth.val) : Shown members value
  | goal {value : Value} (known : ∀ member ∈ members, member.1 ∈ keys)
      (requirements : ∀ value, members.get? "requirements" = some value →
        ∃ text, value = .string text)
      (depth : ∀ value, members.get? "recursion_depth" = some value →
        ∃ depth : Depth, value = .int depth.val)
      (held : members.get? "source_type" = some value)
      (unfit : ∀ goal : Goal, value ≠ .string goal.name) : Shown members value

/-- The section of a project file is no table, but is taken for none. -/
inductive PassedOver (project : Members) : Prop
  | value {tool : Members} {value : Value} (held : project.get? "tool" = some (.object tool))
      (there : tool.get? "proctor" = some value) (void : Void value)

/-- Something is wrong with a project file of which nothing is said. -/
inductive Unchecked (bounds : Bounds) (project : Members) : Prop
  | tool {value : Value} (held : project.get? "tool" = some value)
      (other : ∀ tool, value ≠ .object tool)
  | value {tool : Members} {value : Value} (held : project.get? "tool" = some (.object tool))
      (there : tool.get? "proctor" = some value) (shapeless : Shapeless value)
  | unshown {tool members : Members} {value : Value}
      (held : project.get? "tool" = some (.object tool))
      (there : tool.get? "proctor" = some (.object members)) (shown : Shown members value)
      (unshowable : ¬value.Showable bounds.shownValues)

/-! ## The reader, part by part -/

def Silent {α : Type} (reading : Except SettingsFault α) : Prop :=
  ∃ fault, reading = .error fault ∧ fault.message? = none

section

variable {α β : Type}

@[simp] theorem not_silent_ok (x : α) : ¬Silent (.ok x) := by
  rintro ⟨fault, hfault, -⟩
  cases hfault

@[simp] theorem silent_error_iff {fault : SettingsFault} :
    Silent (.error fault : Except SettingsFault α) ↔ fault.message? = none := by
  constructor
  · rintro ⟨_, ⟨⟩, hsilent⟩
    exact hsilent
  · intro hsilent
    exact ⟨fault, rfl, hsilent⟩

theorem silent_bind_iff {first : Except SettingsFault α} {next : α → Except SettingsFault β} :
    Silent (first >>= next) ↔ Silent first ∨ ∃ x, first = .ok x ∧ Silent (next x) := by
  cases first with
  | ok x => simp [bind, Except.bind]
  | error fault => simp [bind, Except.bind]

end

theorem checkKeys_eq_ok_iff {given : List String} :
    checkKeys given = .ok () ↔ ∀ key ∈ given, key ∈ keys := by
  have hnil : given.filter (fun key => !keys.contains key) = [] ↔ ∀ key ∈ given, key ∈ keys := by
    simp [List.filter_eq_nil_iff]
  rw [checkKeys]
  split
  case h_1 hunknown => exact iff_of_true rfl (hnil.mp hunknown)
  case h_2 hunknown => exact iff_of_false nofun fun hknown => hunknown (hnil.mpr hknown)

theorem exists_unknownKeys {given : List String} (h : ¬∀ key ∈ given, key ∈ keys) :
    ∃ unknown, checkKeys given = .error (.unknownKeys unknown) := by
  rw [← checkKeys_eq_ok_iff, checkKeys] at h
  rw [checkKeys]
  split at h
  · exact absurd rfl h
  · exact ⟨_, rfl⟩

theorem not_silent_checkKeys (given : List String) : ¬Silent (checkKeys given) := by
  rw [checkKeys]
  split
  · exact not_silent_ok ()
  · rw [silent_error_iff]
    exact nofun

theorem requirementsIn_eq_ok_iff {found : Option Path} :
    requirementsIn root members = .ok found ↔ Option.Rel
      (fun value path => ∃ text, value = .string text ∧ path = root.join (Path.ofText text))
      (members.get? "requirements") found := by
  rw [requirementsIn]
  cases members.get? "requirements" with
  | none => cases found <;> simp
  | some value => cases value <;> cases found <;> simp [eq_comm]

theorem not_silent_requirementsIn (root : Path) (members : Members) :
    ¬Silent (requirementsIn root members) := by
  rw [requirementsIn]
  split
  · exact not_silent_ok none
  · exact not_silent_ok _
  · rw [silent_error_iff]
    exact nofun

/-- The setting that a value stands for, if there is one; otherwise what is wrong with it. -/
def settingIn {α : Type} (bounds : Bounds) (read : Value → Option α)
    (fault : String → SettingsFault) : Option Value → Except SettingsFault (Option α)
  | none => .ok none
  | some value =>
    match read value with
    | some x => .ok (some x)
    | none => .error (unfit bounds fault value)

theorem depthIn_eq (bounds : Bounds) (members : Members) : depthIn bounds members =
    settingIn bounds Depth.ofValue? .invalidDepth (members.get? "recursion_depth") := by
  rw [depthIn]
  cases members.get? "recursion_depth" with
  | none => rfl
  | some value =>
      cases hvalue : Depth.ofValue? value with
      | none => simp only [settingIn, hvalue]
      | some depth => simp only [settingIn, hvalue]

theorem goalIn_eq (bounds : Bounds) (members : Members) : goalIn bounds members =
    settingIn bounds Goal.ofValue? .invalidGoal (members.get? "source_type") := by
  rw [goalIn]
  cases members.get? "source_type" with
  | none => rfl
  | some value =>
      cases hvalue : Goal.ofValue? value with
      | none => simp only [settingIn, hvalue]
      | some goal => simp only [settingIn, hvalue]

section

variable {α : Type} {read : Value → Option α} {fits : Value → α → Prop}
  {fault : String → SettingsFault} {held : Option Value}

theorem settingIn_eq_ok_iff (hread : ∀ value x, read value = some x ↔ fits value x)
    {found : Option α} :
    settingIn bounds read fault held = .ok found ↔ Option.Rel fits held found := by
  cases held with
  | none => cases found <;> simp [settingIn]
  | some value =>
      rw [settingIn]
      cases hvalue : read value with
      | none => cases found <;> simp [← hread, hvalue]
      | some x => cases found <;> simp [← hread, hvalue]

/-- Nothing is said of a value that is not fit if it cannot be shown. -/
theorem silent_settingIn_iff (hread : ∀ value x, read value = some x ↔ fits value x)
    (hfault : ∀ text, (fault text).message? ≠ none) :
    Silent (settingIn bounds read fault held) ↔
      ∃ value, held = some value ∧ (∀ x, ¬fits value x) ∧ ¬value.Showable bounds.shownValues := by
  cases held with
  | none => simp [settingIn]
  | some value =>
      have hunfit : read value = none ↔ ∀ x, ¬fits value x := by
        rw [Option.eq_none_iff_forall_ne_some]
        simp only [ne_eq, hread]
      have hmessage : (unfit bounds fault value).message? = none ↔
          ¬value.Showable bounds.shownValues := by
        rw [← Value.exists_shown_iff, unfit]
        cases value.shown bounds.shownValues with
        | ok text => simp [hfault text]
        | error unshowable => simp [SettingsFault.message?]
      rw [settingIn]
      cases hvalue : read value with
      | none => simp [hmessage, hunfit.mp hvalue]
      | some x =>
          refine iff_of_false (not_silent_ok _) ?_
          rintro ⟨_, ⟨⟩, hnone, -⟩
          exact hnone x ((hread value x).mp hvalue)

end

/-! ## Tables and sections -/

theorem ofTable_eq_ok_iff :
    ofTable bounds root members = .ok settings ↔ SetBy root members settings := by
  simp only [ofTable, bind_eq_ok_iff, depthIn_eq, goalIn_eq, requirementsIn_eq_ok_iff,
    settingIn_eq_ok_iff fun _ _ => Depth.ofValue?_eq_some_iff,
    settingIn_eq_ok_iff fun _ _ => Goal.ofValue?_eq_some_iff]
  constructor
  · rintro ⟨⟨⟩, hkeys, requirements, hrequirements, depth, hdepth, goal, hgoal, hmade⟩
    cases hmade
    refine ⟨fun member hmember => ?_, hrequirements, hdepth, hgoal, rfl⟩
    exact checkKeys_eq_ok_iff.mp hkeys _ (List.mem_map_of_mem hmember)
  · rintro ⟨hkeys, hrequirements, hdepth, hgoal, hroot⟩
    refine ⟨(), checkKeys_eq_ok_iff.mpr ?_, _, hrequirements, _, hdepth, _, hgoal, ?_⟩
    · intro key hkey
      obtain ⟨member, hmember, rfl⟩ := List.mem_map.mp hkey
      exact hkeys member hmember
    · obtain ⟨requirements, depth, goal, projectRoot⟩ := settings
      cases hroot
      rfl

theorem exists_rel_iff {α : Type} {fits : Value → α → Prop} {held : Option Value} :
    (∃ found, Option.Rel fits held found) ↔ ∀ value, held = some value → ∃ x, fits value x := by
  constructor
  · rintro ⟨found, hrel⟩ value rfl
    cases hrel with
    | some hfits => exact ⟨_, hfits⟩
  · intro h
    cases held with
    | none => exact ⟨none, .none⟩
    | some value =>
        obtain ⟨x, hx⟩ := h value rfl
        exact ⟨some x, .some hx⟩

/-- Nothing is said of a table that is wrong if a value is to be shown that cannot be. -/
theorem silent_ofTable_iff : Silent (ofTable bounds root members) ↔
    ∃ value, Shown members value ∧ ¬value.Showable bounds.shownValues := by
  have hkeys : checkKeys (members.map (·.1)) = .ok () ↔ ∀ member ∈ members, member.1 ∈ keys := by
    rw [checkKeys_eq_ok_iff, List.forall_mem_map]
  have hrequirements : (∃ found, requirementsIn root members = .ok found) ↔
      ∀ value, members.get? "requirements" = some value → ∃ text, value = .string text := by
    simp only [requirementsIn_eq_ok_iff, exists_rel_iff]
    refine forall₂_congr fun value _ => ?_
    exact ⟨fun ⟨_, text, htext, _⟩ => ⟨text, htext⟩, fun ⟨text, htext⟩ => ⟨_, text, htext, rfl⟩⟩
  have hdepth : (∃ found, depthIn bounds members = .ok found) ↔ ∀ value,
      members.get? "recursion_depth" = some value → ∃ depth : Depth, value = .int depth.val := by
    simp only [depthIn_eq, settingIn_eq_ok_iff fun _ _ => Depth.ofValue?_eq_some_iff,
      exists_rel_iff]
  have hdepthSilent : Silent (depthIn bounds members) ↔ ∃ value,
      members.get? "recursion_depth" = some value ∧ (∀ depth : Depth, value ≠ .int depth.val) ∧
        ¬value.Showable bounds.shownValues := by
    rw [depthIn_eq]
    exact silent_settingIn_iff (fun _ _ => Depth.ofValue?_eq_some_iff) nofun
  have hgoalSilent : Silent (goalIn bounds members) ↔ ∃ value,
      members.get? "source_type" = some value ∧ (∀ goal : Goal, value ≠ .string goal.name) ∧
        ¬value.Showable bounds.shownValues := by
    rw [goalIn_eq]
    exact silent_settingIn_iff (fun _ _ => Goal.ofValue?_eq_some_iff) nofun
  -- Of the keys and of the requirements it is always said what is wrong.
  rw [ofTable]
  simp only [silent_bind_iff, not_silent_checkKeys, not_silent_requirementsIn, false_or]
  constructor
  · rintro ⟨⟨⟩, hchecked, path, hpath, hlater⟩
    have hknown := hkeys.mp hchecked
    have hstring := hrequirements.mp ⟨path, hpath⟩
    rcases hlater with hsilent | ⟨depth, hfound, hsilent | ⟨goal, -, hsilent⟩⟩
    · obtain ⟨value, hheld, hunfit, hsize⟩ := hdepthSilent.mp hsilent
      exact ⟨value, .depth hknown hstring hheld hunfit, hsize⟩
    · obtain ⟨value, hheld, hunfit, hsize⟩ := hgoalSilent.mp hsilent
      exact ⟨value, .goal hknown hstring (hdepth.mp ⟨depth, hfound⟩) hheld hunfit, hsize⟩
    · exact absurd hsilent (not_silent_ok _)
  · rintro ⟨value, hshown, hsize⟩
    cases hshown with
    | depth known requirements held unfit =>
        obtain ⟨path, hpath⟩ := hrequirements.mpr requirements
        exact ⟨(), hkeys.mpr known, path, hpath, .inl (hdepthSilent.mpr ⟨_, held, unfit, hsize⟩)⟩
    | goal known requirements depth held unfit =>
        obtain ⟨path, hpath⟩ := hrequirements.mpr requirements
        obtain ⟨found, hfound⟩ := hdepth.mpr depth
        exact ⟨(), hkeys.mpr known, path, hpath, .inr ⟨found, hfound,
          .inl (hgoalSilent.mpr ⟨_, held, unfit, hsize⟩)⟩⟩

theorem ofSection_object (bounds : Bounds) (root : Path) (members : Members) :
    ofSection bounds root (.object members) = ofTable bounds root members := by
  cases members with
  | nil => rfl
  | cons member members => rfl

theorem ofSection_void (bounds : Bounds) (root : Path) (h : Void value) :
    ofSection bounds root value = .ok { projectRoot := some root } := by
  refine if_pos ?_
  cases h with
  | float zero => exact zero
  | _ => rfl

/-- A list is looked into for its keys, if it is a list of strings. -/
theorem ofSection_array (bounds : Bounds) (root : Path) {items : List Value} (h : items ≠ []) :
    ofSection bounds root (.array items) = match items.mapM Value.string? with
      | some names => checkKeys names >>= fun _ => .error .sectionNotATable
      | none => .error .sectionNotATable := by
  have hvoid : isVoid (.array items) = false := by simpa [isVoid] using h
  rw [ofSection, hvoid]
  rfl

theorem mapM_string?_eq_some_iff {items : List Value} {names : List String} :
    items.mapM Value.string? = some names ↔ items = names.map .string := by
  have hstring : ∀ (name : String) (item : Value), item.string? = some name ↔
      item = .string name := by
    intro name item
    cases item with
    | string text => simp [Value.string?]
    | _ => simp [Value.string?]
  rw [mapM_eq_some_iff, ← List.forall₂_eq_eq_eq, List.forall₂_map_right_iff]
  simp only [hstring]
  exact ⟨.flip, .flip⟩

theorem ofSection_shapeless (bounds : Bounds) (root : Path) (h : Shapeless value) :
    ofSection bounds root value = .error .sectionNotATable := by
  cases h with
  | bool => rfl
  | int nonzero => simp [ofSection, isVoid, nonzero]
  | float nonzero => simp [ofSection, isVoid, nonzero]
  | moment m => rfl
  | mixed other =>
      rw [ofSection_array bounds root fun hitems => other [] (congrArg Value.array hitems)]
      split
      case h_1 names hnames =>
        exact absurd (congrArg Value.array (mapM_string?_eq_some_iff.mp hnames)) (other names)
      case h_2 => rfl
  -- The keys pass, but a list has no values under them.
  | @known names some known =>
      rw [Value.strings, ofSection_array bounds root (by simpa using some),
        mapM_string?_eq_some_iff.mpr rfl]
      show (checkKeys names >>= _) = _
      rw [checkKeys_eq_ok_iff.mpr known]
      rfl

/-- Every key has more than one character, so no character of a text is one. -/
theorem not_forall_mem_keys {text : String} (h : text ≠ "") :
    ¬∀ key ∈ text.toList.map (fun c => String.ofList [c]), key ∈ keys := by
  obtain ⟨c, rest, htext⟩ : ∃ c rest, text.toList = c :: rest :=
    List.exists_cons_of_ne_nil (by simpa using h)
  intro hkeys
  have hkey := hkeys (String.ofList [c]) (by simp [htext])
  have hsize : ∀ key ∈ keys, key.toList.length ≠ 1 := by decide
  exact hsize _ hkey (by simp)

/-- A section that is neither a table, nor taken for none, nor without keys has an unknown key. -/
theorem ofSection_cases (bounds : Bounds) (root : Path) (value : Value) :
    Void value ∨ Shapeless value ∨ (∃ members, value = .object members) ∨
      ∃ unknown, ofSection bounds root value = .error (.unknownKeys unknown) := by
  cases value with
  | null => exact .inl .null
  | bool b =>
      cases b with
      | false => exact .inl .bool
      | true => exact .inr (.inl .bool)
  | int n =>
      by_cases hn : n = 0
      · exact .inl (hn ▸ .int)
      · exact .inr (.inl (.int hn))
  | float x =>
      cases hx : x.isZero with
      | true => exact .inl (.float hx)
      | false => exact .inr (.inl (.float hx))
  | moment m => exact .inr (.inl (.moment m))
  | object members => exact .inr (.inr (.inl ⟨members, rfl⟩))
  -- The characters of a text are taken for keys.
  | string text =>
      by_cases htext : text = ""
      · exact .inl (htext ▸ .string)
      · obtain ⟨unknown, hunknown⟩ := exists_unknownKeys (not_forall_mem_keys htext)
        refine .inr (.inr (.inr ⟨unknown, ?_⟩))
        have hvoid : isVoid (.string text) = false := by simpa [isVoid] using htext
        rw [ofSection, hvoid]
        show (checkKeys _ >>= _) = _
        rw [hunknown]
        rfl
  | array items =>
      by_cases hitems : items = []
      · exact .inl (hitems ▸ .array)
      · by_cases hstrings : ∃ names, Value.array items = .strings names
        · obtain ⟨names, hnames⟩ := hstrings
          obtain rfl := Value.array.inj hnames
          by_cases hknown : ∀ name ∈ names, name ∈ keys
          · exact .inr (.inl (.known (by simpa using hitems) hknown))
          · obtain ⟨unknown, hunknown⟩ := exists_unknownKeys hknown
            refine .inr (.inr (.inr ⟨unknown, ?_⟩))
            rw [ofSection_array bounds root hitems, mapM_string?_eq_some_iff.mpr rfl]
            show (checkKeys names >>= _) = _
            rw [hunknown]
            rfl
        · exact .inr (.inl (.mixed fun names hnames => hstrings ⟨names, hnames⟩))

/-! ## Project files -/

theorem ofSection_eq_ok_iff : ofSection bounds root value = .ok settings ↔
    Void value ∧ settings = { projectRoot := some root } ∨
      ∃ members, value = .object members ∧ SetBy root members settings := by
  constructor
  · intro h
    rcases ofSection_cases bounds root value with
      hvoid | hshapeless | ⟨members, rfl⟩ | ⟨unknown, hunknown⟩
    · rw [ofSection_void bounds root hvoid] at h
      exact .inl ⟨hvoid, (Except.ok.inj h).symm⟩
    · rw [ofSection_shapeless bounds root hshapeless] at h
      cases h
    · rw [ofSection_object] at h
      exact .inr ⟨members, rfl, ofTable_eq_ok_iff.mp h⟩
    · rw [hunknown] at h
      cases h
  · rintro (⟨hvoid, rfl⟩ | ⟨members, rfl, hset⟩)
    · exact ofSection_void bounds root hvoid
    · rw [ofSection_object]
      exact ofTable_eq_ok_iff.mpr hset

theorem silent_ofSection_iff : Silent (ofSection bounds root value) ↔ Shapeless value ∨
    ∃ members shown, value = .object members ∧ Shown members shown ∧
      ¬shown.Showable bounds.shownValues := by
  constructor
  · intro h
    rcases ofSection_cases bounds root value with
      hvoid | hshapeless | ⟨members, rfl⟩ | ⟨unknown, hunknown⟩
    · rw [ofSection_void bounds root hvoid] at h
      exact absurd h (not_silent_ok _)
    · exact .inl hshapeless
    · rw [ofSection_object] at h
      obtain ⟨shown, hshown⟩ := silent_ofTable_iff.mp h
      exact .inr ⟨members, shown, rfl, hshown⟩
    · rw [hunknown, silent_error_iff] at h
      cases h
  · rintro (hshapeless | ⟨members, shown, rfl, hshown⟩)
    · rw [ofSection_shapeless bounds root hshapeless]
      exact silent_error_iff.mpr rfl
    · rw [ofSection_object]
      exact silent_ofTable_iff.mpr ⟨shown, hshown⟩

theorem ofProject_of_tool {tool : Members} (bounds : Bounds) (root : Path)
    (h : project.get? "tool" = some (.object tool)) :
    ofProject bounds root project =
      ofSection bounds root ((tool.get? "proctor").getD (.object [])) := by
  rw [ofProject, h]

theorem ofProject_of_section {tool : Members} {value : Value} (bounds : Bounds) (root : Path)
    (htool : project.get? "tool" = some (.object tool))
    (hsection : tool.get? "proctor" = some value) :
    ofProject bounds root project = ofSection bounds root value := by
  rw [ofProject_of_tool bounds root htool, hsection, Option.getD_some]

theorem ofProject_of_noSection {tool : Members} (bounds : Bounds) (root : Path)
    (htool : project.get? "tool" = some (.object tool)) (hsection : tool.get? "proctor" = none) :
    ofProject bounds root project = .ok { projectRoot := some root } := by
  rw [ofProject_of_tool bounds root htool, hsection]
  rfl

/-- The settings of a project file are those it states, and none if its section is passed over. -/
theorem ofProject_eq_ok_iff : ofProject bounds root project = .ok settings ↔
    StatedBy root project settings ∨
      PassedOver project ∧ settings = { projectRoot := some root } := by
  constructor
  · intro h
    cases htool : project.get? "tool" with
    | none =>
        rw [ofProject, htool] at h
        cases h
        exact .inl (.noTool htool)
    | some value =>
        cases value with
        | object tool =>
            cases hsection : Members.get? tool "proctor" with
            | none =>
                rw [ofProject_of_noSection bounds root htool hsection] at h
                cases h
                exact .inl (.noSection htool hsection)
            | some value =>
                rw [ofProject_of_section bounds root htool hsection, ofSection_eq_ok_iff] at h
                rcases h with ⟨hvoid, rfl⟩ | ⟨members, rfl, hset⟩
                · exact .inr ⟨.value htool hsection hvoid, rfl⟩
                · exact .inl (.table htool hsection hset)
        | _ =>
            rw [ofProject, htool] at h
            cases h
  · rintro (hstated | ⟨⟨hheld, hthere, hvoid⟩, rfl⟩)
    · cases hstated with
      | noTool absent => rw [ofProject, absent]
      | noSection held absent => exact ofProject_of_noSection bounds root held absent
      | table held there set =>
          rw [ofProject_of_section bounds root held there]
          exact ofSection_eq_ok_iff.mpr (.inr ⟨_, rfl, set⟩)
    · rw [ofProject_of_section bounds root hheld hthere]
      exact ofSection_void bounds root hvoid

/-- Nothing is said of a project file that is wrong exactly if it is wrong where nothing is
checked. -/
theorem silent_ofProject_iff :
    Silent (ofProject bounds root project) ↔ Unchecked bounds project := by
  constructor
  · intro h
    cases htool : project.get? "tool" with
    | none =>
        rw [ofProject, htool] at h
        exact absurd h (not_silent_ok _)
    | some value =>
        cases value with
        | object tool =>
            cases hsection : Members.get? tool "proctor" with
            | none =>
                rw [ofProject_of_noSection bounds root htool hsection] at h
                exact absurd h (not_silent_ok _)
            | some value =>
                rw [ofProject_of_section bounds root htool hsection, silent_ofSection_iff] at h
                rcases h with hshapeless | ⟨members, shown, rfl, hshown, hsize⟩
                · exact .value htool hsection hshapeless
                · exact .unshown htool hsection hshown hsize
        | _ => exact .tool htool nofun
  · intro h
    cases h with
    | @tool value held other =>
        rw [ofProject, held]
        cases value with
        | object tool => exact absurd rfl (other tool)
        | _ => exact silent_error_iff.mpr rfl
    | value held there shapeless =>
        rw [ofProject_of_section bounds root held there]
        exact silent_ofSection_iff.mpr (.inl shapeless)
    | unshown held there shown oversized =>
        rw [ofProject_of_section bounds root held there]
        exact silent_ofSection_iff.mpr (.inr ⟨_, _, rfl, shown, oversized⟩)

/-- A file holds the text of a project. -/
def Holds (tree : FileTree) (here : List String) (path : Path) (project : Members) : Prop :=
  ∃ bytes text, tree.read here path = .ok bytes ∧ String.fromUTF8? bytes = some text ∧
    Toml.read text = .ok project

theorem load_of_holds {tree : FileTree} {here : List String} {path : Path}
    (h : Holds tree here path project) :
    load bounds tree here path = ofProject bounds path.parent project := by
  obtain ⟨bytes, text, hbytes, htext, hproject⟩ := h
  simp only [load, hbytes, htext, hproject]

/-- Settings are read from a project file exactly if the file states them, or if its section is no
table and counts as false. Of any other file it is said what is wrong with it, unless that is not
checked. -/
theorem load_eq_ok_iff_statedBy (bounds : Bounds) {tree : FileTree} {here : List String}
    {path : Path} (h : Holds tree here path project) :
    (∀ settings, load bounds tree here path = .ok settings ↔ StatedBy path.parent project settings ∨
      PassedOver project ∧ settings = { projectRoot := some path.parent }) ∧
    ((∃ fault, load bounds tree here path = .error fault ∧ fault.message? = none) ↔
      Unchecked bounds project) ∧
    (¬PassedOver project → ¬Unchecked bounds project →
      (∀ settings, ¬StatedBy path.parent project settings) →
      ∃ fault message, load bounds tree here path = .error fault ∧
        fault.message? = some message) := by
  rw [load_of_holds h]
  refine ⟨fun settings => ofProject_eq_ok_iff, silent_ofProject_iff, ?_⟩
  intro hpassed hchecked hstated
  -- What is read is stated or passed over; what fails silently was not checked.
  cases hread : ofProject bounds path.parent project with
  | ok settings =>
      rcases ofProject_eq_ok_iff.mp hread with hsettings | ⟨hvoid, -⟩
      · exact absurd hsettings (hstated settings)
      · exact absurd hvoid hpassed
  | error fault =>
      cases hmessage : fault.message? with
      | none => exact absurd (silent_ofProject_iff.mp ⟨fault, hread, hmessage⟩) hchecked
      | some message => exact ⟨fault, message, rfl, hmessage⟩

/-! ## Samples -/

def treeOf (text : String) : FileTree :=
  ⟨[([projectFile], .file text.toUTF8)]⟩

theorem holds_treeOf {text : String} (h : (Toml.read text).toOption = some project) :
    Holds (treeOf text) [] ⟨.root, [projectFile]⟩ project := by
  refine ⟨text.toUTF8, text, rfl, fromUTF8?_toUTF8 text, ?_⟩
  cases hread : Toml.read text with
  | ok table =>
      rw [hread] at h
      cases h
      rfl
  | error fault =>
      rw [hread] at h
      cases h

def fullText : String :=
  "[tool.proctor]\nrequirements = 'r.toml'\nrecursion_depth = 5\nsource_type = 'module'\n"

/-- The members of the section with all three settings. -/
def fullMembers : Members :=
  [("requirements", .string "r.toml"), ("recursion_depth", .int 5),
    ("source_type", .string "module")]

theorem holds_fullText : Holds (treeOf fullText) [] ⟨.root, [projectFile]⟩
    [("tool", .object [("proctor", .object fullMembers)])] :=
  holds_treeOf (by decide +kernel)

theorem setBy_fullMembers : SetBy ⟨.root, []⟩ fullMembers
    ⟨some ⟨.root, ["r.toml"]⟩, some { val := 5 }, some .module, some ⟨.root, []⟩⟩ where
  known := by decide
  requirements := .some ⟨"r.toml", rfl, by decide⟩
  depth := .some rfl
  goal := .some rfl
  projectRoot := rfl

theorem load_fullText_eq_ok :
    Holds (treeOf fullText) [] ⟨.root, [projectFile]⟩
      [("tool", .object [("proctor", .object fullMembers)])] ∧
    load ⟨4, 4, 4⟩ (treeOf fullText) [] ⟨.root, [projectFile]⟩ =
      .ok ⟨some ⟨.root, ["r.toml"]⟩, some { val := 5 }, some .module, some ⟨.root, []⟩⟩ := by
  refine ⟨holds_fullText, ((load_eq_ok_iff_statedBy ⟨4, 4, 4⟩ holds_fullText).1 _).mpr (.inl ?_)⟩
  exact .table rfl rfl setBy_fullMembers

/-- A project file in which `tool` is no table. -/
def toolText : String := "tool = 'x'\n"

theorem holds_toolText :
    Holds (treeOf toolText) [] ⟨.root, [projectFile]⟩ [("tool", .string "x")] :=
  holds_treeOf (by decide +kernel)

/-- A project file in which the section is no table and counts as false. -/
def zeroText : String := "[tool]\nproctor = 0\n"

theorem holds_zeroText : Holds (treeOf zeroText) [] ⟨.root, [projectFile]⟩
    [("tool", .object [("proctor", .int 0)])] :=
  holds_treeOf (by decide +kernel)

/-- Neither file states any settings. Nothing is said of the first, and the second is accepted. -/
theorem load_toolText_zeroText :
    (∀ settings, ¬StatedBy ⟨.root, []⟩ [("tool", .string "x")] settings) ∧
    load ⟨4, 4, 4⟩ (treeOf toolText) [] ⟨.root, [projectFile]⟩ = .error .toolNotATable ∧
    SettingsFault.toolNotATable.message? = none ∧
    (∀ settings, ¬StatedBy ⟨.root, []⟩ [("tool", .object [("proctor", .int 0)])] settings) ∧
    load ⟨4, 4, 4⟩ (treeOf zeroText) [] ⟨.root, [projectFile]⟩ =
      .ok { projectRoot := some ⟨.root, []⟩ } := by
  refine ⟨?_, load_of_holds holds_toolText, rfl, ?_, load_of_holds holds_zeroText⟩
  · rintro settings (absent | ⟨held, absent⟩ | ⟨held, there, set⟩)
    · cases absent
    · cases held
    · cases held
  · rintro settings (absent | ⟨held, absent⟩ | ⟨held, there, set⟩)
    · cases absent
    · cases held
      cases absent
    · cases held
      cases there

end Rubric.Settings
