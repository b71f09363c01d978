import Rubric.Script.Token

/-!
# Parsing states

A parser works on one token of lookahead. Beside the place in the source text its state keeps where
the last token ended, because many faults are placed there, and the context: what the code around
allows, and what the expression read last can be taken for.
-/

namespace Rubric.Script

structure Marker where
  index : Nat := 0
  line : Nat := 0
  column : Int := 0
deriving Inhabited

def Cursor.marker (cursor : Cursor) : Marker :=
  ⟨cursor.index, cursor.line, cursor.column⟩

/-- What the code around allows, and what the expression read last can be taken for. -/
structure Context where
  strict : Bool := false
  isModule : Bool := false
  await : Bool := false
  allowIn : Bool := true
  allowStrictDirective : Bool := true  -- whether the function may turn itself strict
  allowYield : Bool := true  -- as a name
  inFunction : Bool := false
  inIteration : Bool := false
  inSwitch : Bool := false
  labels : List String := []
  assignable : Bool := false  -- whether the expression can be assigned to
  bindable : Bool := false  -- whether it can be a parameter
  /-- The first `=` after a shorthand property, which is a fault unless a pattern comes of it. -/
  shorthandDefault : Option Token := none
deriving Inhabited

structure State where
  cursor : Cursor
  size : Nat := 0
  braces : List Brace := []
  legacyComments : Bool := true  -- those that open with an angle bracket
  lookahead : Token
  newLine : Bool := false  -- between the last token and the lookahead
  start : Marker := {}  -- of the lookahead
  last : Marker := {}  -- the end of the last token
  context : Context := {}

/-- A parser: it changes the state and gives a result, or a fault, or breaks down. -/
abbrev Parse := StateT State (ExceptT SyntaxFault (Except Breakdown))

def breakDown {α : Type} (breakdown : Breakdown) : Parse α :=
  throwThe Breakdown breakdown

def tooDeep : SyntaxFault :=
  { description := "Source is nested too deeply" }

/-! ## Faults -/

def failAtLast {α : Type} (text : String) : Parse α := do
  let last := (← get).last
  throw (faultAt last.index last.line (last.column + 1) text)

/-- A fault at the end of the last token, on the line that has been read so far. -/
def failOnLine {α : Type} (text : String) : Parse α := do
  let state ← get
  throw (faultAt state.last.index state.cursor.line (state.last.column + 1) text)

/-- What is said of a token that cannot stand where it stands. -/
def unexpectedText (strict : Bool) (token : Token) : String :=
  match token.kind with
  | .finish => "Unexpected end of input"
  | .identifier => "Unexpected identifier"
  | .number => "Unexpected number"
  | .string => "Unexpected string"
  | .template => "Unexpected quasi " ++ token.value
  | .keyword =>
    if isFutureReserved token.value then "Unexpected reserved word"
    else if strict && isStrictReserved token.value then
      "Use of future reserved word in strict mode"
    else "Unexpected token " ++ token.value
  | _ => "Unexpected token " ++ token.value

/-- A fault at the start of a token, whatever is said of it. Its column is counted from the line on
which the last token ended. A fault shows its token, so a number must not be too long for that. -/
def failAt {α : Type} (token : Token) (text : String) : Parse α := do
  if token.isOversized then breakDown .oversizedNumber
  let last := (← get).last
  let lineStart : Int := (last.index : Int) - last.column
  throw (faultAt token.start token.line ((token.start : Int) - lineStart + 1) text)

def unexpected {α : Type} (token : Token) : Parse α := do
  failAt token (unexpectedText (← get).context.strict token)

/-- A fault at a token, or at the end of the last token if none is to blame. -/
def blame {α : Type} (token : Option Token) (text : String) : Parse α :=
  match token with
  | some token => failAt token text
  | none => failAtLast text

/-! ## Context -/

def context : Parse Context :=
  return (← get).context

def modifyContext (change : Context → Context) : Parse Unit :=
  modify fun state => { state with context := change state.context }

/-- What was read last can neither be assigned to nor be a parameter. -/
def notATarget : Parse Unit :=
  modifyContext fun c => { c with assignable := false, bindable := false }

def onlyAssignable : Parse Unit :=
  modifyContext fun c => { c with assignable := true, bindable := false }

/-- Reads an expression on its own: whatever it could be taken for does not matter to the one around
it. -/
def isolate {α : Type} (parser : Parse α) : Parse α := do
  let before ← context
  modifyContext fun c => { c with assignable := true, bindable := true, shorthandDefault := none }
  let result ← parser
  match (← context).shorthandDefault with
  | some token => unexpected token
  | none =>
    modifyContext fun c => { c with
      assignable := before.assignable
      bindable := before.bindable
      shorthandDefault := before.shorthandDefault }
    return result

/-- Reads an expression whose part this may be: the whole can be taken only for what both can. -/
def inherit {α : Type} (parser : Parse α) : Parse α := do
  let before ← context
  modifyContext fun c => { c with assignable := true, bindable := true, shorthandDefault := none }
  let result ← parser
  modifyContext fun c => { c with
    assignable := c.assignable && before.assignable
    bindable := c.bindable && before.bindable
    shorthandDefault := before.shorthandDefault.or c.shorthandDefault }
  return result

/-! ## Tokens -/

def lookahead : Parse Token :=
  return (← get).lookahead

def strictToken (strict : Bool) (token : Token) : Token :=
  if strict && token.kind == .identifier && isStrictReserved token.value then
    { token with kind := .keyword }
  else token

def next : Parse Token := do
  let state ← get
  let cursor ← state.cursor.skipGap state.legacyComments
  let lexed ← lex state.braces cursor
  set { state with
    cursor := lexed.cursor
    braces := lexed.braces
    lookahead := strictToken state.context.strict lexed.token
    newLine := state.lookahead.line != lexed.token.line
    start := cursor.marker
    last := state.cursor.marker }
  return state.lookahead

def skip : Parse Unit := do
  let _ ← next

/-- The token after the lookahead, which stays where it is. Braces it opens or closes count. -/
def peek : Parse Token := do
  let state ← get
  let cursor ← state.cursor.skipGap state.legacyComments
  let lexed ← lex state.braces cursor
  set { state with braces := lexed.braces }
  return lexed.token

namespace Token

def isPunctuator (token : Token) (value : String) : Bool :=
  token.kind == .punctuator && token.value == value

def isKeyword (token : Token) (value : String) : Bool :=
  token.kind == .keyword && token.value == value

/-- Whether the token is a word that has a meaning in its place only. -/
def isContextual (token : Token) (value : String) : Bool :=
  token.kind == .identifier && token.value == value

def isName (token : Token) : Bool :=
  token.kind == .identifier || token.kind == .keyword || token.kind == .boolean ||
    token.kind == .null

def beginsKey (token : Token) : Bool :=
  token.isName || token.kind == .string || token.kind == .number || token.isPunctuator "["

end Token

def at? (value : String) : Parse Bool :=
  return (← lookahead).isPunctuator value

def atKeyword? (value : String) : Parse Bool :=
  return (← lookahead).isKeyword value

/-- Whether the lookahead is a word that has a meaning in its place only. -/
def atContextual? (value : String) : Parse Bool :=
  return (← lookahead).isContextual value

def expect (value : String) : Parse Unit := do
  let token ← next
  unless token.isPunctuator value do unexpected token

def expectKeyword (value : String) : Parse Unit := do
  let token ← next
  unless token.isKeyword value do unexpected token

def accept (value : String) : Parse Bool := do
  if ← at? value then
    skip
    return true
  else return false

def assigningOperators : List String :=
  ["=", "*=", "**=", "/=", "%=", "+=", "-=", "<<=", ">>=", ">>>=", "&=", "^=", "|="]

def atAssigning? : Parse Bool := do
  let token ← lookahead
  return token.kind == .punctuator && assigningOperators.contains token.value

/-- Takes the end of a statement: a semicolon, or nothing before a closing brace, at the end of a
line or at the end of the text. -/
def endStatement : Parse Unit := do
  let state ← get
  if state.lookahead.isPunctuator ";" then skip
  else if !state.newLine then
    if state.lookahead.kind != .finish && !state.lookahead.isPunctuator "\x7d" then
      unexpected state.lookahead
    set { state with last := state.start }

/-! ## Repetition -/

/-- Repeats a step until it gives a result. The fuel bounds the number of steps. -/
def repeatStep {σ α : Type} (step : σ → Parse (σ ⊕ α)) : Nat → σ → Parse α
  | 0, _ => throw tooDeep
  | fuel + 1, s => do
    match ← step s with
    | .inl s => repeatStep step fuel s
    | .inr result => return result

/-- Repeats a step that takes at least one token each time, until it gives a result. -/
def repeatFrom {σ α : Type} (s : σ) (step : σ → Parse (σ ⊕ α)) : Parse α := do
  repeatStep step ((← get).size + 3) s

def collectUntil {α : Type} (done : Parse Bool) (parser : Parse α) : Parse (List α) := do
  let items ← repeatFrom (#[] : Array α) fun items => do
    if ← done then return .inr items
    else return .inl (items.push (← parser))
  return items.toList

end Rubric.Script
