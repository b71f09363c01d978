import Rubric.Depth
import Rubric.FileTree
import Rubric.Goal
import Rubric.Toml.Reader
import Rubric.Value.Shown
import Rubric.Vocabulary

/-!
# Settings

The settings of a project are the section `tool.proctor` of its `pyproject.toml`, which is looked
for in the working directory and the directories above it.
-/

namespace Rubric

/-- The settings of a project; what is not set is left out. -/
structure Settings where
  requirements : Option Path := none
  depth : Option Depth := none
  goal : Option Goal := none
  projectRoot : Option Path := none

/-- Why settings cannot be used. -/
inductive SettingsFault where
  | unreadable (fault : FileFault)
  | notText
  | invalidToml (path : Path) (fault : Toml.Fault)
  | toolNotATable
  /-- The section is not a table and cannot be looked into like one. -/
  | sectionNotATable
  | unknownKeys (keys : List String)
  | invalidRequirements
  | invalidDepth (shown : String)
  | invalidGoal (shown : String)
  | unshowable (unshowable : Unshowable)

namespace SettingsFault

/-- What is said of settings that are wrong; nothing if they could not be looked at. -/
def message? : SettingsFault → Option String
  | .unreadable _ => none
  | .notText => none
  | .toolNotATable => none
  | .sectionNotATable => none
  | .unshowable _ => none
  | .invalidToml path .malformed => some ("Invalid TOML in " ++ path.text)
  | .invalidToml _ _ => none
  | .unknownKeys keys => some ("Unknown [tool.proctor] key(s): " ++ ", ".intercalate keys)
  | .invalidRequirements => some "Invalid [tool.proctor].requirements: expected string path"
  | .invalidDepth shown =>
    some ("Invalid [tool.proctor].recursion_depth: expected a positive integer, got " ++ shown)
  | .invalidGoal shown =>
    some ("Invalid [tool.proctor].source_type: expected one of " ++
      ", ".intercalate (Goal.all.map fun goal => Text.quoted goal.name) ++ ", got " ++ shown)

end SettingsFault

namespace Settings

def keys : List String := ["requirements", "recursion_depth", "source_type"]

def isVoid : Value → Bool
  | .null => true
  | .bool b => !b
  | .int n => n == 0
  | .float x => x.isZero
  | .string s => s.isEmpty
  | .array items => items.isEmpty
  | .object members => members.isEmpty
  | .moment _ => false

/-- The fault of a value that is not fit, unless the value cannot be shown. -/
def unfit (bounds : Bounds) (fault : String → SettingsFault) (value : Value) : SettingsFault :=
  match value.shown bounds.shownValues with
  | .ok shown => fault shown
  | .error unshowable => .unshowable unshowable

def checkKeys (given : List String) : Except SettingsFault Unit :=
  match given.filter fun key => !keys.contains key with
  | [] => .ok ()
  | unknown => .error (.unknownKeys (Vocabulary.sortedDistinct unknown))

/-- The path of the requirements; a relative one starts from the project. -/
def requirementsIn (root : Path) (members : Members) : Except SettingsFault (Option Path) :=
  match members.get? "requirements" with
  | none => .ok none
  | some (.string text) => .ok (some (root.join (Path.ofText text)))
  | some _ => .error .invalidRequirements

def depthIn (bounds : Bounds) (members : Members) : Except SettingsFault (Option Depth) :=
  match members.get? "recursion_depth" with
  | none => .ok none
  | some value =>
    match Depth.ofValue? value with
    | some depth => .ok (some depth)
    | none => .error (unfit bounds .invalidDepth value)

def goalIn (bounds : Bounds) (members : Members) : Except SettingsFault (Option Goal) :=
  match members.get? "source_type" with
  | none => .ok none
  | some value =>
    match Goal.ofValue? value with
    | some goal => .ok (some goal)
    | none => .error (unfit bounds .invalidGoal value)

def ofTable (bounds : Bounds) (root : Path) (members : Members) :
    Except SettingsFault Settings := do
  checkKeys (members.map (·.1))
  let requirements ← requirementsIn root members
  let depth ← depthIn bounds members
  let goal ← goalIn bounds members
  return { requirements, depth, goal, projectRoot := some root }

/-- The settings that the value of the section holds. A string or a list of strings is taken for its
keys, which are unknown or have no values. -/
def ofSection (bounds : Bounds) (root : Path) (value : Value) : Except SettingsFault Settings :=
  if isVoid value then .ok { projectRoot := some root }
  else
    match value with
    | .object members => ofTable bounds root members
    | .string text => do
      checkKeys (text.toList.map fun c => String.ofList [c])
      throw .sectionNotATable
    | .array items =>
      match items.mapM Value.string? with
      | some names => do
        checkKeys names
        throw .sectionNotATable
      | none => .error .sectionNotATable
    | _ => .error .sectionNotATable

def ofProject (bounds : Bounds) (root : Path) (project : Members) :
    Except SettingsFault Settings :=
  match project.get? "tool" with
  | none => .ok { projectRoot := some root }
  | some (.object tool) =>
    ofSection bounds root ((Members.get? tool "proctor").getD (.object []))
  | some _ => .error .toolNotATable

def load (bounds : Bounds) (tree : FileTree) (here : List String) (path : Path) :
    Except SettingsFault Settings :=
  match tree.read here path with
  | .error fault => .error (.unreadable fault)
  | .ok bytes =>
    match String.fromUTF8? bytes with
    | none => .error .notText
    | some text =>
      match Toml.read text with
      | .error fault => .error (.invalidToml path fault)
      | .ok project => ofProject bounds path.parent project

def projectFile : String := "pyproject.toml"

/-- The nearest project file at a directory or above it. The names of the directory come last first.
-/
def nearest (tree : FileTree) : List String → Except FileFault (Option Path)
  | [] => do
    let path : Path := ⟨.root, [projectFile]⟩
    return if ← tree.isFile path then some path else none
  | name :: above => do
    let path : Path := ⟨.root, (name :: above).reverse ++ [projectFile]⟩
    if ← tree.isFile path then return some path else nearest tree above

/-- The project file for a directory, which need not be there. -/
def find (tree : FileTree) (directory : List String) : Except FileFault (Option Path) :=
  match FileTree.flaw? ⟨.root, directory⟩ with
  | some .unusablePath => .error .unusablePath
  | _ => nearest tree directory.reverse

def inForce (bounds : Bounds) (tree : FileTree) (directory : List String) :
    Except SettingsFault Settings :=
  match find tree directory with
  | .error fault => .error (.unreadable fault)
  | .ok none => .ok {}
  | .ok (some path) => load bounds tree directory path

end Settings

end Rubric
