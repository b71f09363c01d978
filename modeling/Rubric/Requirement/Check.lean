import Rubric.Checked
import Rubric.Requirement

/-!
# Reading structure requirements

A requirement is read from an object with a `type`, also called `parent_type`, and perhaps a list
`contains` of strings and further such objects. Any other key is refused, and so is what stands in
more requirements than there are levels.
-/

namespace Rubric.Requirement

def parentField : Checked.Field := { key := "type", other := some "parent_type" }

def containsField : Checked.Field := { key := "contains" }

/-- Puts together a requirement from the members of an object, given what reading its entries gave.
-/
def assemble (members : Members) (contains : Option (Checked (List Entry))) :
    Checked Requirement :=
  let parent := parentField.required members Checked.name
  let contains := match contains with
    | some read => read.within (.key containsField.key)
    | none => .ok []
  ((parent.map Requirement.mk).apply contains).butFor
    (Checked.strangers [parentField, containsField] members)

/-- An entry that is neither a string nor a requirement is refused as either. -/
def orEntry : Checked Requirement → Checked Entry
  | .ok requirement => .ok requirement.entry
  | .error complaints =>
    .error (⟨[.key "str"], .notAString⟩ ::
      complaints.map (Complaint.within (.key "StructureRequirement")))

mutual

def checkEntry : Nat → Value → Checked Entry
  | _, .string name => .ok (.type name)
  | 0, _ => orEntry (Checked.fail .tooDeep)
  | levels + 1, .object members => orEntry (assemble members (checkContains levels members))
  | _ + 1, _ => orEntry (Checked.fail .notAnObject)

def checkEntries (levels position : Nat) : List Value → Checked (List Entry)
  | [] => .ok []
  | value :: rest =>
    (((checkEntry levels value).within (.index position)).map List.cons).apply
      (checkEntries levels (position + 1) rest)

/-- Reads the list of entries among the members of an object, if it is there. -/
def checkContains (levels : Nat) : List (String × Value) → Option (Checked (List Entry))
  | [] => none
  | (key, value) :: rest =>
    if key == containsField.key then
      some (match value with
        | .array values => checkEntries levels 0 values
        | _ => Checked.fail .notAList)
    else checkContains levels rest

end

def check : Nat → Value → Checked Requirement
  | 0, _ => Checked.fail .tooDeep
  | levels + 1, .object members => assemble members (checkContains levels members)
  | _ + 1, _ => Checked.fail .notAnObject

end Rubric.Requirement
