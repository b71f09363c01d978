import Rubric.Script.Regular.Sign
import Rubric.Text.CharacterName
import Rubric.Text.Identifier
import Rubric.Text.Integer

/-!
# Regular expressions

A regular expression in a source text must be sound: groups and sets are closed, a repetition has
something to repeat, every escape is a known one, a reference is to a group that has ended, and what
looks behind has a fixed width. Names of groups are written `(?P<name>…)`. With the flag `x`, blanks
between the parts and remarks behind `#` do not count.
-/

namespace Rubric.Script.Regular

/-! ## Widths -/

/-- The least and the greatest number of characters that a pattern matches. -/
structure Width where
  least : Nat
  most : Nat
deriving DecidableEq

namespace Width

def zero : Width := ⟨0, 0⟩

def one : Width := ⟨1, 1⟩

def append (first second : Width) : Width :=
  ⟨first.least + second.least, first.most + second.most⟩

def either (first second : Width) : Width :=
  ⟨min first.least second.least, max first.most second.most⟩

def times (width : Width) (least most : Nat) : Width :=
  ⟨width.least * least, width.most * most⟩

end Width

def unlimited : Nat := 4294967295

/-! ## Items -/

inductive Item where
  | place
  | repeated (width : Width)  -- with what repeats it
  | single (width : Width)

def Item.width : Item → Width
  | .place => .zero
  | .repeated width => width
  | .single width => width

/-- A sequence of items: the width of all but the last, and the last. -/
structure Items where
  before : Width := .zero
  last : Option Item := none

namespace Items

def width (items : Items) : Width :=
  match items.last with
  | some item => items.before.append item.width
  | none => items.before

def push (items : Items) (item : Item) : Items :=
  ⟨items.width, some item⟩

/-- Repeats the last item, which must be neither a place nor repeated already. -/
def repeatLast? (items : Items) (least most : Nat) : Option Items :=
  match items.last with
  | some (.single width) => some ⟨items.before, some (.repeated (width.times least most))⟩
  | _ => none

end Items

/-! ## Reading -/

/-- A group that captures what it matches: `none` while it is open, then its width. -/
abbrev Capture := Option Width

structure State where
  rest : List Sign
  captures : List Capture := [none]  -- the whole pattern is the first
  names : List (List Char × Nat) := []
  behind : Option Nat := none  -- groups before the outermost pattern that looks behind
  greatest : Nat := 0  -- of the groups that conditions speak of
  flags : List Char := []
  repeats : Bool := false
  depth : Nat := 0

/-- A reader of a part of a pattern. It gives nothing if the pattern is not sound. -/
abbrev Reader := StateT State Option

namespace Reader

def next : Reader Sign := do
  let state ← get
  match state.rest with
  | sign :: rest =>
    set { state with rest }
    return sign
  | [] => failure

def accept (c : Char) : Reader Bool := do
  let state ← get
  match state.rest with
  | sign :: rest =>
    if sign.plain == c then
      set { state with rest }
      return true
    else return false
  | [] => return false

def expect (c : Char) : Reader Unit := do
  guard (← accept c)

def takeWhile (test : Char → Bool) : Reader (List Char) := do
  let state ← get
  let read := state.rest.takeWhile (test ·.plain)
  set { state with rest := state.rest.drop read.length }
  return read.map Sign.plain

def upTo (number : Nat) (test : Char → Bool) : Reader (List Char) := do
  let state ← get
  let read := ((state.rest.take number).takeWhile (test ·.plain)).map Sign.plain
  set { state with rest := state.rest.drop read.length }
  return read

def textBefore (ending : Char) : Reader (List Char) := do
  let state ← get
  let read := state.rest.takeWhile (·.plain != ending)
  guard !read.isEmpty
  set { state with rest := state.rest.drop read.length }
  expect ending
  return read.flatMap Sign.chars

/-- The width of a group that has ended. One that is referred to from a pattern that looks behind
must have started before that. -/
def capture (number : Nat) : Reader Width := do
  let state ← get
  guard (number < state.behind.getD (number + 1))
  match state.captures[number]? with
  | some (some width) => return width
  | _ => failure

end Reader

open Reader

/-! ## Escapes -/

inductive Escape where
  | place
  | category
  | character (code : Nat)
  | reference (width : Width)

def isCategory (c : Char) : Bool :=
  "dDsSwW".toList.contains c

def control? : Char → Option Nat
  | 'a' => some 7
  | 'f' => some 12
  | 'n' => some 10
  | 'r' => some 13
  | 't' => some 9
  | 'v' => some 11
  | _ => none

def hexadecimal (digits : Nat) : Reader Escape := do
  let read ← upTo digits (Text.isDigitOf 16)
  let code := Text.ofDigits 16 read
  guard (read.length == digits && code ≤ 0x10FFFF)
  return .character code

def named : Reader Escape := do
  expect '\x7b'
  match Text.CharacterName.code? (← textBefore '\x7d') with
  | some code => return .character code
  | none => failure

/-- Reads what follows a character behind a backslash that means the same everywhere. -/
def anywhere (code : Nat) : Reader Escape :=
  let c := Text.ofCode code
  match control? c with
  | some code => return .character code
  | none =>
    if isCategory c then return .category
    else if c == 'x' then hexadecimal 2
    else if c == 'u' then hexadecimal 4
    else if c == 'U' then hexadecimal 8
    else if c == 'N' then named
    else if c.isAlphanum then failure
    else return .character code

def greatestOctal : Nat := 255

/-- Reads the rest of an escape in a set, behind the character after its backslash. -/
def escapeInSet (code : Nat) : Reader Escape := do
  let c := Text.ofCode code
  if c == 'b' then return .character 8
  else if Text.isDigitOf 8 c then
    let code := Text.ofDigits 8 (c :: (← upTo 2 (Text.isDigitOf 8)))
    guard (code ≤ greatestOctal)
    return .character code
  else anywhere code

/-- Reads the rest of a decimal escape: a reference to a group, or a character given by three octal
digits. -/
def reference (first : Char) : Reader Escape := do
  let digits := first :: (← upTo 1 Char.isDigit)
  let third ← if digits.length == 2 && digits.all (Text.isDigitOf 8) then
      upTo 1 (Text.isDigitOf 8)
    else pure []
  if third.isEmpty then return .reference (← capture (Text.ofDigits 10 digits))
  else
    let code := Text.ofDigits 8 (digits ++ third)
    guard (code ≤ greatestOctal)
    return .character code

/-- Reads the rest of an escape outside sets, behind the character after its backslash. -/
def escape (code : Nat) : Reader Escape := do
  let c := Text.ofCode code
  if "AbBZ".toList.contains c then return .place
  else if c == '0' then
    return .character (Text.ofDigits 8 (← upTo 2 (Text.isDigitOf 8)))
  else if c.isDigit then reference c
  else anywhere code

def Escape.item : Escape → Item
  | .place => .place
  | .reference width => .single width
  | _ => .single .one

/-! ## Sets -/

/-- Reads the rest of a member of a set, and gives its code unless it is a class. -/
def member (sign : Sign) : Reader (Option Nat) := do
  if sign.escaped then
    match ← escapeInSet sign.code with
    | .character code => return some code
    | _ => return none
  else return some sign.code

/-- Reads the rest of a set. The bracket that closes it cannot be its first member. The fuel bounds
the number of members. -/
def members : Nat → Bool → Reader Unit
  | 0, _ => failure
  | fuel + 1, started => do
    let sign ← next
    if sign.plain == ']' && started then return ()
    let low ← member sign
    if ← accept '-' then
      let sign ← next
      if sign.plain == ']' then return ()
      match low, ← member sign with
      | some low, some high =>
        guard (low ≤ high)
        members fuel true
      | _, _ => failure
    else members fuel true

/-! ## Repetitions -/

/-- The digits of the two numbers of a repetition behind its opening brace, and how many characters
they and the closing brace take; nothing if the brace opens no repetition. -/
def braced? (cs : List Char) : Option (List Char × List Char × Nat) :=
  let least := cs.takeWhile Char.isDigit
  let (most, rest) := match cs.dropWhile Char.isDigit with
    | ',' :: rest => (rest.takeWhile Char.isDigit, rest.dropWhile Char.isDigit)
    | rest => (least, rest)
  match rest with
  | c :: rest =>
    if c == '\x7d' && cs.head? != some c then some (least, most, cs.length - rest.length) else none
  | [] => none

/-- A number of repetitions; none given counts as zero. -/
def count? (digits : List Char) : Option Nat :=
  if digits.isEmpty then some 0 else (Text.natural? digits).filter (· < unlimited)

/-- Reads the numbers of a repetition that starts with a character; nothing if it starts none. -/
def repetition? (c : Char) : Reader (Option (Nat × Nat)) := do
  if c == '*' then return some (0, unlimited)
  else if c == '+' then return some (1, unlimited)
  else if c == '?' then return some (0, 1)
  else if c == '\x7b' then
    let state ← get
    match braced? (state.rest.map Sign.plain) with
    | none => return none
    | some (least, most, length) =>
      set { state with rest := state.rest.drop length }
      match count? least, count? most with
      | some low, some high =>
        if most.isEmpty then return some (low, unlimited)
        else
          guard (low ≤ high)
          return some (low, high)
      | _, _ => failure
  else return none

/-! ## Groups -/

def isName : List Char → Bool
  | [] => false
  | c :: rest => Text.Identifier.isNameStart c && rest.all Text.Identifier.isNamePart

def openCapture (name : Option (List Char)) : Reader Nat := do
  let state ← get
  let number := state.captures.length
  match name with
  | none => set { state with captures := state.captures ++ [none] }
  | some name =>
    guard (isName name && (state.names.lookup name).isNone)
    set { state with
      captures := state.captures ++ [none], names := (name, number) :: state.names }
  return number

def closeCapture (number : Nat) (width : Width) : Reader Unit :=
  modify fun state => { state with captures := state.captures.set number (some width) }

def isFlag (c : Char) : Bool :=
  "aimstux".toList.contains c

/-- The letters of flags that a group may be given: the flag `t` holds for a whole pattern only. -/
def isGroupFlag (c : Char) : Bool :=
  isFlag c && c != 't'

def agree (flags : List Char) : Bool :=
  !(flags.contains 'a' && flags.contains 'u')

structure Flags where
  on : List Char
  off : List Char := []

def flagsOff (on : List Char) : Reader Flags := do
  let off ← takeWhile isGroupFlag
  guard (!off.isEmpty && off.all fun c => c != 'a' && c != 'u' && !on.contains c)
  expect ':'
  return { on, off }

/-- Reads flags after the first character. Flags that stand alone hold for the whole pattern; they
give nothing. -/
def flags (first : Char) : Reader (Option Flags) := do
  if first == '-' then return some (← flagsOff [])
  let on := first :: (← takeWhile isFlag)
  guard (agree on)
  if ← accept ')' then
    modify fun state => { state with flags := state.flags ++ on }
    return none
  guard (on.all isGroupFlag)
  if ← accept ':' then return some { on }
  expect '-'
  return some (← flagsOff on)

/-- Reads the name or number of the group on which a condition depends. -/
def condition : Reader Unit := do
  let text ← textBefore ')'
  let state ← get
  let number ← if isName text then
      match state.names.lookup text with
      | some number => pure number
      | none => failure
    else
      match Text.integer? text with
      | some n => pure n.toNat
      | none => failure
  guard (0 < number)
  if state.behind.isSome then discard (capture number)
  set { state with greatest := max state.greatest number }

def furthestBehind : Nat := 2147483647

/-- Runs a reader of a pattern that looks behind, which must have a fixed width. -/
def lookingBehind (pattern : Reader Width) : Reader Unit := do
  let outer := (← get).behind
  modify fun state => { state with behind := outer.or (some state.captures.length) }
  let width ← pattern
  modify fun state => { state with behind := outer }
  guard (width.least == width.most && width.least ≤ furthestBehind)

def depthLimit : Nat := 460

/-- Runs a reader of what a group holds, and reads the parenthesis that closes it. -/
def closed {α : Type} (contents : Reader α) : Reader α := do
  let outer := (← get).depth
  guard (outer < depthLimit)
  modify fun state => { state with depth := outer + 1 }
  let result ← contents
  expect ')'
  modify fun state => { state with depth := outer }
  return result

/-! ## Blanks and remarks -/

def isGap (c : Char) : Bool :=
  c == ' ' || c == '\n' || c == '\r' || c == '\t' || c.toNat == 11 || c.toNat == 12

/-- Whether blanks and remarks do not count in the pattern as a whole. -/
def spaced : Reader Bool :=
  return (← get).flags.contains 'x'

def skipRemark : Reader Unit := do
  discard (takeWhile (· != '\n'))
  discard (accept '\n')

/-! ## Patterns -/

structure Place where
  spaced : Bool := false  -- blanks and remarks do not count
  outermost : Bool := false
  /-- Whether it belongs to the first alternative outside all groups, where the flags of the whole
  pattern may stand. -/
  first : Bool := false

def Place.inside (place : Place) : Place :=
  { spaced := place.spaced }

def Place.under (place : Place) (flags : Flags) : Place :=
  { spaced := (place.spaced || flags.on.contains 'x') && !flags.off.contains 'x' }

mutual

/-- Reads alternatives, up to a closing parenthesis or the end. The fuel bounds the number of
parts. -/
def alternatives : Nat → Place → Reader Width
  | 0, _ => failure
  | fuel + 1, place => do
    let first ← sequence fuel place {}
    if ← accept '|' then
      let spaced ← spaced
      let place := if place.outermost then { place with spaced, first := false } else place
      return first.either (← alternatives fuel place)
    else return first

def sequence : Nat → Place → Items → Reader Width
  | 0, _, _ => failure
  | fuel + 1, place, items => do
    match (← get).rest with
    | [] => return items.width
    | sign :: _ =>
      let c := sign.plain
      if c == '|' || c == ')' then return items.width
      discard next
      if place.spaced && isGap c then sequence fuel place items
      else if place.spaced && c == '#' then
        skipRemark
        sequence fuel place items
      else if sign.escaped then sequence fuel place (items.push (← escape sign.code).item)
      else if c == '[' then
        discard (accept '^')
        members fuel false
        sequence fuel place (items.push (.single .one))
      else if c == '(' then
        match ← group fuel place (place.first && items.last.isNone) with
        | some item => sequence fuel place (items.push item)
        -- A remark, or flags, which may declare that blanks do not count from here on.
        | none =>
          let spaced ← spaced
          sequence fuel (if place.first then { place with spaced } else place) items
      else if c == '^' || c == '$' then sequence fuel place (items.push .place)
      else
        match ← repetition? c with
        | none => sequence fuel place (items.push (.single .one))
        | some (least, most) =>
          match items.repeatLast? least most with
          | none => failure
          | some items =>
            -- A second sign only says how eager the repetition is.
            unless ← accept '?' do discard (accept '+')
            modify fun state => { state with repeats := true }
            sequence fuel place items

/-- Reads a group behind its opening parenthesis; nothing for a remark and for flags of the whole
pattern, which stand at its start only. -/
def group : Nat → Place → Bool → Reader (Option Item)
  | 0, _, _ => failure
  | fuel + 1, place, atStart => do
    if !(← accept '?') then captured fuel place none
    else
      let c := (← next).plain
      if c == ':' || c == '>' then
        let width ← closed (alternatives fuel place.inside)
        return some (.single width)
      else if c == '=' || c == '!' then
        discard (closed (alternatives fuel place.inside))
        return some (.single .zero)
      else if c == '<' then
        let d := (← next).plain
        guard (d == '=' || d == '!')
        lookingBehind (closed (alternatives fuel place.inside))
        return some (.single .zero)
      else if c == '#' then
        discard (takeWhile (· != ')'))
        expect ')'
        return none
      else if c == 'P' then
        if ← accept '<' then captured fuel place (some (← textBefore '>'))
        else
          expect '='
          let name ← textBefore ')'
          match (← get).names.lookup name with
          | some number => return some (.single (← capture number))
          | none => failure
      else if c == '(' then
        condition
        let width ← closed do
          let yes ← sequence fuel place.inside {}
          let no ← if ← accept '|' then sequence fuel place.inside {} else pure .zero
          return yes.either no
        return some (.single width)
      else
        guard (isFlag c || c == '-')
        match ← flags c with
        | some flags =>
          let width ← closed (alternatives fuel (place.under flags))
          return some (.single width)
        | none =>
          guard atStart
          return none

def captured : Nat → Place → Option (List Char) → Reader (Option Item)
  | 0, _, _ => failure
  | fuel + 1, place, name => do
    let number ← openCapture name
    let width ← closed (alternatives fuel place.inside)
    closeCapture number width
    return some (.single width)

end

/-- Reads a whole pattern. Nothing is repeated under the flag `t`. -/
def whole (fuel : Nat) : Reader Unit := do
  discard (alternatives fuel { outermost := true, first := true })
  let state ← get
  guard (state.rest.isEmpty && state.greatest < state.captures.length && agree state.flags &&
    !(state.flags.contains 't' && state.repeats))

/-- Whether a pattern is sound. Each sign of it takes at most five steps. -/
def isSound (pattern : List Char) : Bool :=
  match (codes pattern).bind signs with
  | some signs => ((whole (5 * signs.length + 5)).run { rest := signs }).isSome
  | none => false

def between (spelling : List Char) : List Char :=
  (((spelling.drop 1).reverse.dropWhile (· != '/')).drop 1).reverse

/-- Whether the spelling of a regular expression, slashes and flags included, is sound. -/
def isValid (spelling : List Char) : Bool :=
  isSound (between spelling)

end Rubric.Script.Regular
