import Rubric.Binary64.Shortest
import Rubric.Text.Digit
import Rubric.Text.Half
import Rubric.Text.Quoted
import Rubric.Value

/-!
# Writing JSON

A value is written in ASCII alone: every other character becomes a `\u` escape, and one beyond the
basic plane becomes a pair of them. Each function puts its text in front of what follows, so that
the whole is built once from the end.
-/

namespace Rubric.Json

/-- How a value is laid out: on one line, or each item on a line of its own, indented by a text per
level. -/
inductive Layout where
  | oneLine
  | indented (unit : String)

namespace Layout

def blanks (count : Nat) : Layout :=
  .indented (String.ofList (List.replicate count ' '))

/-- The layout for a number of blanks per level; one line if none is given. -/
def ofIndent : Option Nat → Layout
  | none => .oneLine
  | some count => .blanks count

def newline (layout : Layout) (level : Nat) : List Char :=
  match layout with
  | .oneLine => []
  | .indented unit => '\n' :: (List.replicate level unit.toList).flatten

def separator (layout : Layout) (level : Nat) : List Char :=
  match layout with
  | .oneLine => [',', ' ']
  | .indented _ => ',' :: layout.newline level

end Layout

def unit (n : Nat) : List Char :=
  '\\' :: 'u' :: Text.Quoted.hex 4 n

def escape (c : Char) : List Char :=
  if c == '"' || c == '\\' then ['\\', c]
  else if c == '\n' then ['\\', 'n']
  else if c == '\r' then ['\\', 'r']
  else if c == '\t' then ['\\', 't']
  else if c.toNat == 8 then ['\\', 'b']
  else if c.toNat == 12 then ['\\', 'f']
  else if 32 ≤ c.toNat && c.toNat < 127 then [c]
  else if c.toNat < 0x10000 then unit c.toNat
  else
    let n := c.toNat - 0x10000
    unit (0xD800 + n / 0x400) ++ unit (0xDC00 + n % 0x400)

def writeString (s : String) (rest : List Char) : List Char :=
  '"' :: s.toList.foldr (fun c r => escape c ++ r) ('"' :: rest)

def floatText : Binary64 → String
  | .nan => "NaN"
  | .infinite negative => if negative then "-Infinity" else "Infinity"
  | x => x.text Binary64.inMessages

mutual

def write (layout : Layout) (level : Nat) : Value → List Char → List Char
  | .null, rest => "null".toList ++ rest
  | .bool b, rest => (if b then "true" else "false").toList ++ rest
  | .int n, rest => (toString n).toList ++ rest
  | .float x, rest => (floatText x).toList ++ rest
  | .string s, rest => writeString s rest
  | .moment m, rest => writeString m.text rest
  | .array [], rest => '[' :: ']' :: rest
  | .array (item :: items), rest =>
    '[' :: (layout.newline (level + 1) ++ write layout (level + 1) item
      (writeItems layout level items rest))
  | .object [], rest => '\x7b' :: '\x7d' :: rest
  | .object ((key, value) :: members), rest =>
    '\x7b' :: (layout.newline (level + 1) ++ writeString key (':' :: ' ' ::
      write layout (level + 1) value (writeMembers layout level members rest)))

/-- The items after the first, and the end of the array. -/
def writeItems (layout : Layout) (level : Nat) : List Value → List Char → List Char
  | [], rest => layout.newline level ++ ']' :: rest
  | item :: items, rest =>
    layout.separator (level + 1) ++ write layout (level + 1) item
      (writeItems layout level items rest)

/-- The members after the first, and the end of the object. -/
def writeMembers (layout : Layout) (level : Nat) :
    List (String × Value) → List Char → List Char
  | [], rest => layout.newline level ++ '\x7d' :: rest
  | (key, value) :: members, rest =>
    layout.separator (level + 1) ++ writeString key (':' :: ' ' ::
      write layout (level + 1) value (writeMembers layout level members rest))

end

def render (layout : Layout) (value : Value) : String :=
  String.ofList (write layout 0 value [])

/-- The half that the character of two units stands in for. -/
def standInHalf? (high low : Nat) : Option Nat :=
  if Text.isHighHalf high && Text.isLowHalf low then Text.half? (Text.ofHalves high low) else none

/-- A JSON text with the escape of the half in place of the two that write its stand-in. -/
def withHalves : List Char → List Char
  | '\\' :: 'u' :: a :: b :: c :: d :: '\\' :: 'u' :: e :: f :: g :: h :: rest =>
    match standInHalf? (Text.ofDigits 16 [a, b, c, d]) (Text.ofDigits 16 [e, f, g, h]) with
    | some half => unit half ++ withHalves rest
    | none =>
      '\\' :: 'u' :: a :: b :: c :: d :: withHalves ('\\' :: 'u' :: e :: f :: g :: h :: rest)
  | '\\' :: c :: rest => '\\' :: c :: withHalves rest
  | c :: rest => c :: withHalves rest
  | [] => []

end Rubric.Json
