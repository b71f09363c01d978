import Rubric.Document
import Rubric.FileTree
import Rubric.Toml.Reader

/-!
# Requirement files

A requirement document is read from a TOML file.
-/

namespace Rubric

inductive RequirementFileFault where
  | unreadable (fault : FileFault)
  | notText
  | invalidToml (fault : Toml.Fault)
  | invalid (complaints : List Complaint)

namespace RequirementFile

/-- What is said of a file that cannot be used; nothing if its contents could not even be looked at.
-/
def message? (path : Path) : RequirementFileFault → Option String
  | .unreadable fault =>
    (fault.message? path).map fun message =>
      "Cannot read requirements file " ++ path.text ++ ": " ++ message
  | .notText => none
  | .invalidToml .malformed => some ("Invalid TOML in " ++ path.text)
  | .invalidToml _ => none
  | .invalid _ => some ("Invalid requirements in " ++ path.text)

def load (bounds : Bounds) (tree : FileTree) (here : List String) (path : Path) :
    Except RequirementFileFault Document :=
  match tree.read here path with
  | .error fault => .error (.unreadable fault)
  | .ok bytes =>
    match String.fromUTF8? bytes with
    | none => .error .notText
    | some text =>
      match Toml.read text with
      | .error fault => .error (.invalidToml fault)
      | .ok table =>
        match Document.checkMembers bounds table with
        | .ok document => .ok document
        | .error complaints => .error (.invalid complaints)

end RequirementFile

end Rubric
