/-!
# Paths

A path as a user writes it: what it starts from, and its parts. Empty parts and single points are
dropped; a double point is kept, because it depends on the file tree what it means.
-/

namespace Rubric

inductive Path.Anchor where
  | here
  | root
  | doubleRoot
deriving DecidableEq

structure Path where
  anchor : Path.Anchor
  parts : List String
deriving DecidableEq

namespace Path

def Anchor.text : Anchor → String
  | .here => ""
  | .root => "/"
  | .doubleRoot => "//"

def split (part : List Char) : List Char → List String
  | [] => [String.ofList part.reverse]
  | '/' :: rest => String.ofList part.reverse :: split [] rest
  | c :: rest => split (c :: part) rest

def partsOf (cs : List Char) : List String :=
  (split [] cs).filter fun part => !part.isEmpty && part != "."

def ofText (text : String) : Path :=
  let anchor : Anchor := match text.toList with
    | '/' :: '/' :: '/' :: _ => .root
    | '/' :: '/' :: _ => .doubleRoot
    | '/' :: _ => .root
    | _ => .here
  ⟨anchor, partsOf text.toList⟩

def text (path : Path) : String :=
  match path.anchor, path.parts with
  | .here, [] => "."
  | anchor, parts => anchor.text ++ "/".intercalate parts

/-- The path from one place to another; one that starts from the root stays as it is. -/
def join (base path : Path) : Path :=
  match path.anchor with
  | .here => { base with parts := base.parts ++ path.parts }
  | _ => path

def parent (path : Path) : Path :=
  { path with parts := path.parts.dropLast }

def name (path : Path) : String :=
  path.parts.getLastD ""

/-- The parts from the root, with double points resolved. -/
def resolve (parts : List String) : List String :=
  parts.foldl (fun done part => if part == ".." then done.dropLast else done ++ [part]) []

end Path

end Rubric
