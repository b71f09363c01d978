import Rubric.Checked
import Rubric.Depth
import Rubric.Path
import Rubric.Text.Integer

/-!
# Command lines

A command line names options of the program, a command, and the options and arguments of the
command. Options of a command may stand before, between and behind its arguments; `--` ends them.
The last of several values of an option counts.
-/

namespace Rubric

/-- What to grade, and how. What is left out is taken from the requirement file or the settings. -/
structure GradeOptions where
  source : String
  requirements : Option Path := none
  depth : Option Depth := none
  asModule : Bool := false
  json : Bool := false
  output : Option Path := none

inductive Command where
  | grade (options : GradeOptions)
  | check (requirements : Option Path)
  | vocabulary

/-- The paths that a command is given as such; a source may also be standard input. -/
def Command.givenPaths : Command → List Path
  | .grade options => options.requirements.toList ++ options.output.toList
  | .check requirements => requirements.toList
  | .vocabulary => []

inductive CommandLine where
  | help
  | command (verbose : Bool) (command : Command)

namespace CommandLine

/-! ## Options and arguments -/

/-- An option with its long name, the letter that stands for it, if any, and whether it takes a
value. Only options with a value have letters. -/
structure Switch where
  name : String
  letter : Option Char := none
  hasValue : Bool := false

/-- What has been read of a command line: the options in order, with their values, and the rest. -/
structure Reading where
  options : List (String × String) := []
  arguments : List String := []

namespace Reading

def withOption (name value : String) (reading : Reading) : Reading :=
  { reading with options := (name, value) :: reading.options }

def withArgument (argument : String) (reading : Reading) : Reading :=
  { reading with arguments := argument :: reading.arguments }

def has (reading : Reading) (name : String) : Bool :=
  reading.options.any (·.1 == name)

def get? (reading : Reading) (name : String) : Option String :=
  reading.options.reverse.lookup name

end Reading

inductive Word where
  | argument
  | endOfOptions
  | option (switch : Switch) (attached : Option String)
  | unknown

/-- The text before the first equals sign, and the text behind it, if there is one. -/
def splitAtEquals (cs : List Char) : String × Option String :=
  let name := String.ofList (cs.takeWhile (· != '='))
  match cs.dropWhile (· != '=') with
  | [] => (name, none)
  | _ :: value => (name, some (String.ofList value))

/-- What a word that starts with a dash is: the long name of an option, perhaps with a value behind
an equals sign, or the letter of one, perhaps with a value right behind it. -/
def Word.ofDashed (switches : List Switch) (cs : List Char) : Word :=
  let (name, value) := splitAtEquals cs
  match switches.find? (·.name == name) with
  | some switch => .option switch value
  | none =>
    match cs with
    | _ :: '-' :: _ => .unknown
    | _ :: letter :: value =>
      match switches.find? (·.letter == some letter) with
      | some switch =>
        .option switch (if value.isEmpty then none else some (String.ofList value))
      | none => .unknown
    | _ => .unknown

def Word.ofText (switches : List Switch) (text : String) : Word :=
  if text == "--" then .endOfOptions
  else
    match text.toList with
    | '-' :: c :: rest => Word.ofDashed switches ('-' :: c :: rest)
    | _ => .argument

/-- Reads options and arguments; nothing if an option is unknown, lacks its value, or has one that
it does not take. Unless arguments may be mixed with options, the first argument ends the options.
-/
def readWords (switches : List Switch) (mixed : Bool) : List String → Option Reading
  | [] => some {}
  | word :: rest =>
    match Word.ofText switches word with
    | .unknown => none
    | .endOfOptions => some { arguments := rest }
    | .argument =>
      if mixed then (readWords switches mixed rest).map (·.withArgument word)
      else some { arguments := word :: rest }
    | .option switch (some value) =>
      if switch.hasValue then (readWords switches mixed rest).map (·.withOption switch.name value)
      else none
    | .option switch none =>
      if switch.hasValue then
        match rest with
        | [] => none
        | value :: rest =>
          (readWords switches mixed rest).map (·.withOption switch.name value)
      else (readWords switches mixed rest).map (·.withOption switch.name "")

/-! ## Values -/

def depth? (text : String) : Option Depth :=
  (Text.integer? text.toList).bind fun n => Depth.ofValue? (.int n)

/-- The value of an option that may be absent; nothing if it is there and not fit. -/
def optional {α : Type} (read : String → Option α) : Option String → Option (Option α)
  | none => some none
  | some text => (read text).map some

/-! ## Commands -/

def helpSwitch : Switch := { name := "--help" }

def programSwitches : List Switch :=
  [{ name := "--verbose" }, { name := "--no-verbose" }, helpSwitch]

def gradeSwitches : List Switch :=
  [{ name := "--requirements", letter := some 'r', hasValue := true },
    { name := "--depth", hasValue := true },
    { name := "--module" },
    { name := "--json" },
    { name := "--output", letter := some 'o', hasValue := true },
    helpSwitch]

def grade? (reading : Reading) : Option Command := do
  let depth ← optional depth? (reading.get? "--depth")
  match reading.arguments with
  | [source] =>
    some (.grade {
      source
      depth
      requirements := (reading.get? "--requirements").map Path.ofText
      asModule := reading.has "--module"
      json := reading.has "--json"
      output := (reading.get? "--output").map Path.ofText })
  | _ => none

def check? (reading : Reading) : Option Command :=
  match reading.arguments with
  | [] => some (.check none)
  | [requirements] => some (.check (some (Path.ofText requirements)))
  | _ => none

def vocabulary? (reading : Reading) : Option Command :=
  if reading.arguments.isEmpty then some .vocabulary else none

/-- Reads a command with its options. Help is given even if arguments are missing. -/
def readCommand (verbose : Bool) (switches : List Switch) (make : Reading → Option Command)
    (words : List String) : Option CommandLine := do
  let reading ← readWords switches true words
  if reading.has helpSwitch.name then some .help
  else (make reading).map (.command verbose)

/-- Whether the events of a run are shown: the last option that speaks of it decides. -/
def isVerbose (reading : Reading) : Bool :=
  let spoken := reading.options.filter fun option => option.1 != helpSwitch.name
  (spoken.getLast?.map (·.1)) == some "--verbose"

def read (words : List String) : Option CommandLine := do
  let reading ← readWords programSwitches false words
  if reading.has helpSwitch.name then some .help
  else
    let verbose := isVerbose reading
    match reading.arguments with
    | "grade" :: rest => readCommand verbose gradeSwitches grade? rest
    | "check" :: rest => readCommand verbose [helpSwitch] check? rest
    | "vocabulary" :: rest => readCommand verbose [helpSwitch] vocabulary? rest
    | _ => none

end CommandLine

end Rubric
