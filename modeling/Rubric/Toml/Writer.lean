import Rubric.Binary64.Shortest
import Rubric.Text.Quoted
import Rubric.Value

/-!
# Writing TOML

A list of tables is written inline, one table a line, if every such line is short enough; otherwise
each of its tables gets a section of its own, after all that is written inline.
-/

namespace Rubric.Toml

/-- The most characters of a line that holds a table of a list. -/
def longestLine : Nat := 100

def indent : String := "    "

def escapeChar (c : Char) : List Char :=
  if c == '"' || c == '\\' then ['\\', c]
  else if c == '\n' then ['\\', 'n']
  else if c == '\r' then ['\\', 'r']
  else if c.toNat == 8 then ['\\', 'b']
  else if c.toNat == 12 then ['\\', 'f']
  else if c != '\t' && (c.toNat < 32 || c.toNat == 127) then
    '\\' :: 'u' :: Text.Quoted.hex 4 c.toNat
  else [c]

def stringText (s : String) : String :=
  String.ofList ('"' :: s.toList.flatMap escapeChar ++ ['"'])

/-- A key, between quotes if it needs them. -/
def keyText (key : String) : String :=
  let isBare (c : Char) := c.isAlphanum || c == '-' || c == '_'
  if !key.isEmpty && key.toList.all isBare then key else stringText key

mutual

/-- A value on the right of an assignment, at a level of lists. Null has no TOML form and does not
occur in what is written. -/
def inlineText (level : Nat) : Value → String
  | .null => "\"\""
  | .bool b => if b then "true" else "false"
  | .int n => toString n
  | .float x => x.text Binary64.inMessages
  | .string s => stringText s
  | .moment m => stringText m.text
  | .array [] => "[]"
  | .array (item :: items) =>
    let margin := String.join (List.replicate (level + 1) indent)
    "[\n" ++ margin ++ inlineText (level + 1) item ++ itemsText level items ++ ",\n" ++
      String.join (List.replicate level indent) ++ "]"
  | .object [] => "\x7b\x7d"
  | .object ((key, value) :: members) =>
    "\x7b " ++ keyText key ++ " = " ++ inlineText 0 value ++ membersText members ++ " \x7d"

def itemsText (level : Nat) : List Value → String
  | [] => ""
  | item :: items =>
    ",\n" ++ String.join (List.replicate (level + 1) indent) ++ inlineText (level + 1) item ++
      itemsText level items

def membersText : List (String × Value) → String
  | [] => ""
  | (key, value) :: members =>
    ", " ++ keyText key ++ " = " ++ inlineText 0 value ++ membersText members

end

def isTable : Value → Bool
  | .object _ => true
  | _ => false

/-- Whether a table is short enough to stand on one line of a list. -/
def fitsLine (table : Value) : Bool :=
  let line := indent ++ inlineText 0 table ++ ","
  line.length ≤ longestLine && !line.toList.contains '\n'

/-- Whether a value gets sections of its own: a table, or a list of tables not all of which fit on a
line. -/
def hasSections : Value → Bool
  | .object _ => true
  | .array items => !items.isEmpty && items.all isTable && !items.all fitsLine
  | _ => false

def assignments (members : Members) : String :=
  String.join ((members.filter fun m => !hasSections m.2).map fun (key, value) =>
    keyText key ++ " = " ++ inlineText 0 value ++ "\n")

def nameWithin (outer key : String) : String :=
  if outer.isEmpty then keyText key else outer ++ "." ++ keyText key

mutual

/-- The sections of a table's members, each behind an empty line; `started` says that something has
been written before. -/
def sections (name : String) (started : Bool) : List (String × Value) → String
  | [] => ""
  | (key, value) :: rest =>
    if hasSections value then
      sectionsOf (nameWithin name key) started value ++ sections name true rest
    else sections name started rest

def sectionsOf (name : String) (started : Bool) : Value → String
  | .object members =>
    let literals := assignments members
    let opening :=
      if !literals.isEmpty || !members.any (fun m => hasSections m.2) then "[" ++ name ++ "]\n"
      else ""
    (if started then "\n" else "") ++ opening ++ literals ++
      sections name (!(opening ++ literals).isEmpty) members
  | .array items => listSections name started items
  | _ => ""

def listSections (name : String) (started : Bool) : List Value → String
  | [] => ""
  | .object members :: rest =>
    (if started then "\n" else "") ++ "[[" ++ name ++ "]]\n" ++ assignments members ++
      sections name true members ++ listSections name true rest
  | _ :: rest => listSections name started rest

end

def render (members : Members) : String :=
  let literals := assignments members
  literals ++ sections "" (!literals.isEmpty) members

end Rubric.Toml
