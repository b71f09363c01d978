import Rubric.Toml.Lexeme

/-!
# Reading TOML

A document is read line by line into one table. A header moves to a table or appends one to a list;
an assignment adds a value below the current table. Two kinds of note are kept on the tables: those
opened explicitly cannot be opened again, and what was written as one value cannot be changed later.
Lists and tables in a value take up room, of which there is enough for some hundreds in one another.
-/

namespace Rubric.Toml

abbrev Key := List String

/-! ## Tables -/

/-- A note on a table. -/
structure Note where
  key : Key
  /-- Whether what is there cannot change, rather than only not be opened again. -/
  frozen : Bool
  deep : Bool  -- for everything below too

def isNoted (notes : List Note) (key : Key) (frozen : Bool) : Bool :=
  notes.any fun note =>
    note.frozen == frozen && (note.key == key || (note.deep && note.key.isPrefixOf key))

def forget (notes : List Note) (key : Key) : List Note :=
  notes.filter fun note => !key.isPrefixOf note.key

/-- The table that a value is, and how to put another in its place. With `throughLists`, the last
item of a list stands for the list. -/
def door (throughLists : Bool) : Option Value → Option (Members × (Members → Value))
  | none => some ([], .object)
  | some (.object table) => some (table, .object)
  | some (.array items) =>
    match throughLists, items.getLast? with
    | true, some (.object table) =>
      some (table, fun table => .array (items.dropLast ++ [.object table]))
    | _, _ => none
  | some _ => none

/-- Changes the table at a key, making tables on the way where there are none. -/
def alter (throughLists : Bool) (change : Members → Option Members) :
    Key → Members → Option Members
  | [], members => change members
  | part :: key, members => do
    let (table, close) ← door throughLists (members.get? part)
    let table ← alter throughLists change key table
    some (members.insert part (close table))

def addMember (name : String) (value : Value) (members : Members) : Option Members :=
  if members.has name then none else some (members.insert name value)

def addTable (name : String) (members : Members) : Option Members :=
  match members.get? name with
  | none => some (members.insert name (.array [.object []]))
  | some (.array items) => some (members.insert name (.array (items ++ [.object []])))
  | some _ => none

def isCompound : Value → Bool
  | .array _ => true
  | .object _ => true
  | _ => false

/-! ## Keys -/

def isBareKey (c : Char) : Bool :=
  c.isAlphanum || c == '-' || c == '_'

def keyPart? (cs : List Char) : Option (String × List Char) :=
  match cs with
  | '"' :: rest => basicString? (rest.length + 1) [] rest
  | '\'' :: rest => literalString? rest
  | cs =>
    let part := cs.takeWhile isBareKey
    if part.isEmpty then none else some (String.ofList part, cs.dropWhile isBareKey)

/-- The parts of a key behind those read, latest first. The fuel bounds their number. -/
def keyRest? : Nat → Key → List Char → Option (Key × List Char)
  | 0, _, _ => none
  | fuel + 1, read, cs =>
    match skipBlanks cs with
    | '.' :: rest => do
      let (part, rest) ← keyPart? (skipBlanks rest)
      keyRest? fuel (part :: read) rest
    | rest => some (read.reverse, rest)

def key? (cs : List Char) : Option (Key × List Char) := do
  let (part, rest) ← keyPart? cs
  keyRest? (rest.length + 1) [part] rest

/-! ## Values -/

/-- Drops blanks, line ends and comments between the items of a list. The fuel bounds the number of
comments. -/
def skipItemGap? : Nat → List Char → Option (List Char)
  | 0, cs => some cs
  | fuel + 1, cs =>
    match skipBlankLines cs with
    | '#' :: rest => (skipComment? ('#' :: rest)).bind (skipItemGap? fuel)
    | rest => some rest

/-- Drops blanks, line ends and comments between the items of a list. -/
def skipGap? (cs : List Char) : Option (List Char) :=
  skipItemGap? cs.length cs

def scalar (cs : List Char) : Except Fault (Value × List Char) :=
  match cs with
  | 't' :: 'r' :: 'u' :: 'e' :: rest => .ok (.bool true, rest)
  | 'f' :: 'a' :: 'l' :: 's' :: 'e' :: rest => .ok (.bool false, rest)
  | cs =>
    match moment cs with
    | .invalid => .error .malformed
    | .read moment rest => .ok (.moment moment, rest)
    | .none => number cs

def roomForValue : Nat := 960

def roomOfList : Nat := 2

def roomOfTable : Nat := 3

def take (needed room : Nat) : Except Fault Nat :=
  if needed ≤ room then .ok (room - needed) else .error .tooDeep

mutual

/-- A value. The fuel bounds how many values it is made of. -/
def value : Nat → Nat → List Char → Except Fault (Value × List Char)
  | 0, _, _ => .error .malformed
  | fuel + 1, room, cs =>
    match cs with
    | '"' :: _ => present ((string? cs).map fun (s, rest) => (.string s, rest))
    | '\'' :: _ => present ((string? cs).map fun (s, rest) => (.string s, rest))
    | '[' :: rest => do
      let (items, rest) ← items fuel (← take roomOfList room) [] rest
      return (.array items, rest)
    | '\x7b' :: rest =>
      match skipBlanks rest with
      | '\x7d' :: rest => .ok (.object [], rest)
      | rest => do
        let (table, rest) ← members fuel (← take roomOfTable room) [] [] rest
        return (.object table, rest)
    | cs => scalar cs

/-- The items of a list behind those read, latest first, and the end of the list. -/
def items : Nat → Nat → List Value → List Char → Except Fault (List Value × List Char)
  | 0, _, _, _ => .error .malformed
  | fuel + 1, room, read, cs => do
    match ← present (skipGap? cs) with
    | ']' :: rest => return (read.reverse, rest)
    | cs =>
      let (item, rest) ← value fuel room cs
      match ← present (skipGap? rest) with
      | ']' :: rest => return ((item :: read).reverse, rest)
      | ',' :: rest => items fuel room (item :: read) rest
      | _ => throw .malformed

/-- The members of a table written as one value behind those read, and its end. -/
def members : Nat → Nat → List Note → Members → List Char → Except Fault (Members × List Char)
  | 0, _, _, _, _ => .error .malformed
  | fuel + 1, room, notes, read, cs => do
    let (key, rest) ← present (key? cs)
    let rest ← present (mark? '=' rest)
    let (item, rest) ← value fuel room (skipBlanks rest)
    if isNoted notes key true then throw .malformed
    let table ← present (alter false (addMember (key.getLastD "") item) key.dropLast read)
    let notes := if isCompound item then ⟨key, true, true⟩ :: notes else notes
    match skipBlanks rest with
    | '\x7d' :: rest => return (table, rest)
    | ',' :: rest => members fuel room notes table (skipBlanks rest)
    | _ => throw .malformed

end

/-! ## Documents -/

/-- What has been read of a document. -/
structure Draft where
  root : Members := []
  notes : List Note := []
  opened : List Key := []  -- by dotted keys since the last header
  header : Key := []  -- what assignments go to

namespace Draft

/-- Notes the tables opened by dotted keys, which no header can open any more. -/
def settle (draft : Draft) : Draft :=
  { draft with notes := draft.opened.map (⟨·, false, false⟩) ++ draft.notes, opened := [] }

/-- Moves to a table, which must not have been opened before. -/
def openTable (draft : Draft) (key : Key) : Option Draft := do
  if isNoted draft.notes key false || isNoted draft.notes key true then none
  else
    let root ← alter true some key draft.root
    some { draft with root, notes := ⟨key, false, false⟩ :: draft.notes, header := key }

/-- Appends a table to a list and moves to it. What was noted below the list held of the table
before. -/
def appendTable (draft : Draft) (key : Key) : Option Draft := do
  if isNoted draft.notes key true then none
  else
    let root ← alter true (addTable (key.getLastD "")) key.dropLast draft.root
    some { draft with
      root, notes := ⟨key, false, false⟩ :: forget draft.notes key, header := key }

def passed (header key : Key) : List Key :=
  (List.range (key.length - 1)).map fun n => header ++ key.take (n + 1)

def assign (draft : Draft) (key : Key) (value : Value) : Option Draft := do
  let ways := passed draft.header key
  if ways.any fun way => isNoted draft.notes way false then none
  else if isNoted draft.notes (draft.header ++ key.dropLast) true then none
  else
    let root ← alter true (addMember (key.getLastD "") value) (draft.header ++ key.dropLast)
      draft.root
    let notes := if isCompound value then ⟨draft.header ++ key, true, true⟩ :: draft.notes
      else draft.notes
    some { draft with root, notes, opened := ways ++ draft.opened }

end Draft

def statement (draft : Draft) (cs : List Char) : Except Fault (Draft × List Char) :=
  match cs with
  | '[' :: '[' :: rest => do
    let (key, rest) ← present (key? (skipBlanks rest))
    let draft ← present (draft.settle.appendTable key)
    let rest ← present ((mark? ']' rest).bind (mark? ']'))
    return (draft, skipBlanks rest)
  | '[' :: rest => do
    let (key, rest) ← present (key? (skipBlanks rest))
    let draft ← present (draft.settle.openTable key)
    let rest ← present (mark? ']' rest)
    return (draft, skipBlanks rest)
  | c :: rest =>
    if c == '#' then .ok (draft, c :: rest)
    else do
      let (key, rest) ← present (key? (c :: rest))
      let rest ← present (mark? '=' rest)
      let (value, rest) ← value (rest.length + 1) roomForValue (skipBlanks rest)
      let draft ← present (draft.assign key value)
      return (draft, skipBlanks rest)
  | [] => .ok (draft, [])

/-- Reads the lines of a document. The fuel bounds their number. -/
def lines : Nat → Draft → List Char → Except Fault Draft
  | 0, _, _ => .error .malformed
  | fuel + 1, draft, cs =>
    match skipBlanks cs with
    | [] => .ok draft
    | '\n' :: rest => lines fuel draft rest
    | cs => do
      let (draft, rest) ← statement draft cs
      match ← present (skipComment? rest) with
      | [] => return draft
      | '\n' :: rest => lines fuel draft rest
      | _ => throw .malformed

def unifyLineEnds : List Char → List Char
  | '\r' :: '\n' :: rest => '\n' :: unifyLineEnds rest
  | c :: rest => c :: unifyLineEnds rest
  | [] => []

def read (text : String) : Except Fault Members :=
  let cs := unifyLineEnds text.toList
  (lines (cs.length + 1) {} cs).map Draft.root

end Rubric.Toml
