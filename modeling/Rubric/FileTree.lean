import Rubric.Path
import Rubric.Text.Quoted

/-!
# File trees

The files and directories that a run sees. A path is followed part by part from the root, as a
system without links does it.
-/

namespace Rubric

inductive FileTree.Item where
  | file (bytes : ByteArray)
  | directory

/-- Files and directories by their places, each place a list of names from the root. The root itself
is always there. -/
structure FileTree where
  items : List (List String × FileTree.Item) := []

inductive FileFault where
  | missing
  | notADirectory
  | isADirectory
  | exists
  | nameTooLong
  | unusablePath
deriving DecidableEq

namespace FileFault

def text : FileFault → String
  | .missing => "[Errno 2] No such file or directory"
  | .notADirectory => "[Errno 20] Not a directory"
  | .isADirectory => "[Errno 21] Is a directory"
  | .exists => "[Errno 17] File exists"
  | .nameTooLong => "[Errno 36] File name too long"
  | .unusablePath => "embedded null byte"

/-- What the system says of a path; nothing if the path never gets to it. -/
def message? (fault : FileFault) (path : Path) : Option String :=
  if fault = .unusablePath then none else some (fault.text ++ ": " ++ Text.quoted path.text)

end FileFault

namespace FileTree

def find? (tree : FileTree) (place : List String) : Option Item :=
  if place.isEmpty then some .directory else tree.items.lookup place

/-- Puts something at a place, in place of what was there. -/
def put (tree : FileTree) (place : List String) (item : Item) : FileTree :=
  { tree with items := tree.items.filter (·.1 != place) ++ [(place, item)] }

/-- Makes a directory at a place, unless something is there. -/
def ensure (tree : FileTree) (place : List String) : FileTree :=
  match tree.find? place with
  | some _ => tree
  | none => tree.put place .directory

def ensureAbove (tree : FileTree) (place : List String) : FileTree :=
  (List.range place.length).foldl (fun tree n => tree.ensure (place.take n)) tree

/-- Puts something at a place and makes the directories on the way. -/
def add (tree : FileTree) (place : List String) (item : Item) : FileTree :=
  (tree.ensureAbove place).put place item

def longestName : Nat := 255

def longestPath : Nat := 4095

def flaw? (path : Path) : Option FileFault :=
  if path.text.toList.contains (Char.ofNat 0) then some .unusablePath
  else if longestPath < path.text.utf8ByteSize then some .nameTooLong
  else none

def follow (tree : FileTree) (reached : List String) :
    List String → Except FileFault (List String × Item)
  | [] =>
    match tree.find? reached with
    | some item => .ok (reached, item)
    | none => .error .missing
  | part :: rest =>
    match tree.find? reached with
    | none => .error .missing
    | some (.file _) => .error .notADirectory
    | some .directory =>
      if longestName < part.utf8ByteSize then .error .nameTooLong
      else tree.follow (if part == ".." then reached.dropLast else reached ++ [part]) rest

def locate (tree : FileTree) (here : List String) (path : Path) :
    Except FileFault (List String × Item) :=
  match flaw? path with
  | some fault => .error fault
  | none => tree.follow (if path.anchor == .here then here else []) path.parts

def read (tree : FileTree) (here : List String) (path : Path) : Except FileFault ByteArray :=
  match tree.locate here path with
  | .ok (_, .file bytes) => .ok bytes
  | .ok (_, .directory) => .error .isADirectory
  | .error fault => .error fault

/-- Whether a file stands at the end of a path. A path that is too long is a fault all the same. -/
def isFile (tree : FileTree) (path : Path) : Except FileFault Bool :=
  match tree.locate [] path with
  | .ok (_, .file _) => .ok true
  | .ok (_, .directory) => .ok false
  | .error .nameTooLong => .error .nameTooLong
  | .error _ => .ok false

/-- Makes the directories of a path that are not there, from a place that has been reached. -/
def makeDirectories (tree : FileTree) (reached : List String) :
    List String → Except FileFault (FileTree × List String)
  | [] => .ok (tree, reached)
  | part :: rest =>
    if part == ".." then tree.makeDirectories reached.dropLast rest
    else if longestName < part.utf8ByteSize then .error .nameTooLong
    else
      let place := reached ++ [part]
      match tree.find? place with
      | some .directory => tree.makeDirectories place rest
      | none => (tree.put place .directory).makeDirectories place rest
      | some (.file _) => .error (if rest.isEmpty then .exists else .notADirectory)

/-- Writes a file, after making the directories on the way to it. -/
def write (tree : FileTree) (here : List String) (path : Path) (bytes : ByteArray) :
    Except FileFault FileTree :=
  let start := if path.anchor == .here then here else []
  match flaw? path, tree.makeDirectories start path.parts.dropLast with
  | some fault, _ => .error fault
  | none, .error fault => .error fault
  | none, .ok (tree, directory) =>
    match path.parts.getLast? with
    | none => .error .isADirectory
    | some name =>
      if longestName < name.utf8ByteSize then .error .nameTooLong
      else
        let place := if name == ".." then directory.dropLast else directory ++ [name]
        match tree.find? place with
        | some .directory => .error .isADirectory
        | _ => .ok (tree.put place (.file bytes))

end FileTree

end Rubric
