import Rubric.Run
import Rubric.Script.Program

/-!
# The program

The outer layer: it copies the files that a run may look at into a file tree, runs the command line
on it, shows what the run showed and writes what the run wrote.
-/

namespace Rubric

def Command.paths : Command → List Path
  | .grade options => Path.ofText options.source :: (Command.grade options).givenPaths
  | command => command.givenPaths

namespace Program

def bounds : Bounds where
  shownValues := 960
  shownRequirements := 190
  readRequirements := 255

def spelled (place : List String) : String :=
  "/" ++ "/".intercalate place

def copyPlace (tree : FileTree) (place : List String) : IO FileTree := do
  if ← ((← IO.currentDir) / spelled place).isDir then return tree.ensure place
  else
    try return tree.put place (.file (← IO.FS.readBinFile (spelled place)))
    catch _ => return tree

/-- Copies what stands at a place, and at all places on the way to it, into a file tree. -/
def copy (tree : FileTree) (place : List String) : IO FileTree :=
  (List.range place.length).foldlM (fun tree n => copyPlace tree (place.take (n + 1))) tree

def placeOf (here : List String) (path : Path) : List String :=
  Path.resolve ((if path.anchor == .here then here else []) ++ path.parts)

/-- The places at which the project file for a directory may stand. -/
def projectPlaces (here : List String) : List (List String) :=
  (List.range (here.length + 1)).map fun n => here.take n ++ [Settings.projectFile]

def survey (here : List String) (command : Command) : IO FileTree := do
  let tree ← (projectPlaces here).foldlM copy {}
  let fromSettings := match Settings.inForce bounds tree here with
    | .ok settings => settings.requirements.toList
    | .error _ => []
  (command.paths ++ fromSettings).foldlM (fun tree path => copy tree (placeOf here path)) tree

partial def readAll (input : IO.FS.Stream) (read : String) : IO String := do
  let line ← input.getLine
  if line.isEmpty then return read else readAll input (read ++ line)

/-- Writes the files of one tree that are not in another. -/
def writeNew (before after : FileTree) : IO Unit := do
  for (place, item) in after.items do
    match item, before.find? place with
    | .file new, some (.file old) => if new != old then IO.FS.writeBinFile (spelled place) new
    | .file new, _ =>
      IO.FS.createDirAll (spelled place.dropLast)
      IO.FS.writeBinFile (spelled place) new
    | .directory, _ => pure ()

def showResults : Shown → IO Unit
  | .exact text => IO.print text
  | .lines lines => lines.forM IO.println

/-- What is said of a command line that is not used as it should be. -/
def usage : String :=
  "Usage: proctor [--verbose] grade [-r FILE] [--depth N] [--module] [--json] [-o FILE] SOURCE\n" ++
    "       proctor [--verbose] check [REQUIREMENTS]\n" ++
    "       proctor [--verbose] vocabulary"

def conclude (before : FileTree) : Run → IO Unit
  | .misused => IO.eprintln usage
  | .helped => IO.println usage
  | .crashed _ => IO.eprintln "✗ The run could not be finished"
  | .finished _ verbose transcript => do
    if verbose then
      for event in transcript.events do
        if let .ok text := event.message bounds then IO.eprintln ("DEBUG " ++ text)
    transcript.results.forM showResults
    transcript.messages.forM fun message => IO.eprintln message
    writeNew before transcript.files

end Program

end Rubric

open Rubric in
/-- Runs the program with the words of a command line. -/
def main (words : List String) : IO UInt32 := do
  let here := (Path.ofText (← IO.currentDir).toString).parts
  let command? := match CommandLine.read words with
    | some (.command _ command) => some command
    | _ => none
  let files ← match command? with
    | some command => Program.survey here command
    | none => pure {}
  let input ← match command? with
    | some (.grade options) =>
      if options.source == "-" then Program.readAll (← IO.getStdin) "" else pure ""
    | _ => pure ""
  let run := Run.ofWords ⟨here, input, Script.parser, Program.bounds⟩ files words
  Program.conclude files run
  return run.exitCode.toUInt32
