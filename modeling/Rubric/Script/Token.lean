import Rubric.Binary64.Shortest
import Rubric.Script.Cursor
import Rubric.Text.Digit
import Rubric.Text.Half
import Rubric.Text.Identifier

/-!
# Tokens

The tokens of ECMAScript and how they are read from a source text. Whether a closing brace goes on
with a template depends on what the braces opened so far belong to, so reading a token also keeps a
stack of them.
-/

namespace Rubric.Script

inductive TokenKind where
  | boolean
  | finish
  | identifier
  | keyword
  | null
  | number
  | punctuator
  | string
  | template
deriving DecidableEq, Inhabited

structure Token where
  kind : TokenKind
  value : String  -- the text of a string or name, else the spelling
  start : Nat
  line : Nat  -- the line on which it ends
  raw : String := ""
  octal : Bool := false  -- of the old form
  head : Bool := false  -- it opens a template
  tail : Bool := false  -- it closes a template
deriving DecidableEq, Inhabited

inductive Brace where
  | plain
  | template
deriving DecidableEq

/-- A token with the place behind it and the braces then open, the innermost first. -/
structure Lexed where
  token : Token
  cursor : Cursor
  braces : List Brace

def keywords : List String := [
  "if", "in", "do", "var", "for", "new", "try", "let", "this", "else", "case", "void", "with",
  "enum", "while", "break", "catch", "throw", "const", "yield", "class", "super", "return",
  "typeof", "delete", "switch", "export", "import", "default", "finally", "extends", "function",
  "continue", "debugger", "instanceof"]

def isFutureReserved (word : String) : Bool :=
  ["enum", "export", "import", "super"].contains word

def isStrictReserved (word : String) : Bool :=
  ["implements", "interface", "package", "private", "protected", "public", "static", "yield",
    "let"].contains word

def isRestricted (word : String) : Bool :=
  word == "eval" || word == "arguments"

namespace Lex

/-! ## Escapes -/

def hexEscape : Nat → Nat → Cursor → Option Nat × Cursor
  | 0, code, cursor => (some code, cursor)
  | count + 1, code, cursor =>
    match Text.hexValue? cursor.peek with
    | some value => hexEscape count (code * 16 + value) (cursor.skip 1)
    | none => (none, cursor)

def codePoint (cursor : Cursor) : Except SyntaxFault (Nat × Cursor) :=
  let digits := cursor.rest.takeWhile fun c => (Text.hexValue? c).isSome
  let code := Text.ofDigits 16 digits
  let behind := cursor.skip digits.length
  if cursor.peek == '\x7d' then cursor.illegal
  else
    match behind.rest with
    | [] => behind.illegal
    | c :: _ =>
      if c == '\x7d' && code ≤ 0x10FFFF then .ok (code, behind.skip 1)
      else (behind.skip 1).illegal

/-! ## Names -/

/-- Reads an escape within a name, behind its backslash. A code in braces may be any character. -/
def nameEscape (allowed : Char → Bool) (cursor : Cursor) : Except SyntaxFault (Char × Cursor) :=
  if cursor.peek != 'u' then cursor.illegal
  else if cursor.peekSecond == '\x7b' then
    match codePoint (cursor.skip 2) with
    | .ok (code, behind) => .ok (Text.ofCode code, behind)
    | .error fault => .error fault
  else
    match hexEscape 4 0 (cursor.skip 1) with
    | (none, behind) => behind.illegal
    | (some code, behind) =>
      let c := Text.ofCode code
      if c != '\\' && code == c.toNat && allowed c then .ok (c, behind) else behind.illegal

/-- Reads a name after the characters read already, the latest first. The fuel bounds its length. -/
def nameRest : Nat → List Char → Cursor → Except SyntaxFault (List Char × Cursor)
  | 0, read, cursor => .ok (read, cursor)
  | fuel + 1, read, cursor =>
    match cursor.rest with
    | [] => .ok (read, cursor)
    | c :: _ =>
      if !Text.Identifier.isPart c then .ok (read, cursor)
      else if c == '\\' then
        match nameEscape Text.Identifier.isPart (cursor.skip 1) with
        | .ok (escaped, behind) => nameRest fuel (escaped :: read) behind
        | .error fault => .error fault
      else nameRest fuel (c :: read) (cursor.skip 1)

/-- The most characters that a name can take: its own, and the braces of its escapes. -/
def nameBound (cursor : Cursor) : Nat :=
  (cursor.rest.takeWhile fun c =>
    Text.Identifier.isPart c || c == '\x7b' || c == '\x7d').length

def name (cursor : Cursor) : Except SyntaxFault (List Char × Cursor) :=
  if cursor.peek == '\\' then
    match nameEscape Text.Identifier.isStart (cursor.skip 1) with
    | .ok (first, behind) => nameRest (nameBound behind) [first] behind
    | .error fault => .error fault
  else nameRest (nameBound cursor) [cursor.peek] (cursor.skip 1)

/-- The sort of token a word is. A single character is never a keyword. -/
def wordKind (word : String) : TokenKind :=
  if word.length == 1 then .identifier
  else if keywords.contains word then .keyword
  else if word == "null" then .null
  else if word == "true" || word == "false" then .boolean
  else .identifier

/-- Reads a name or keyword. A keyword is not spelled with escapes. -/
def word (cursor : Cursor) : Except SyntaxFault (Token × Cursor) :=
  match name cursor with
  | .error fault => .error fault
  | .ok (read, behind) =>
    let value := String.ofList read.reverse
    let kind := wordKind value
    if kind != .identifier && cursor.index + read.length != behind.index then
      .error (Cursor.fault { behind with index := cursor.index }
        "Keyword must not contain escaped characters")
    else .ok ({ kind, value, start := cursor.index, line := behind.line }, behind)

/-! ## Punctuators -/

def punctuators : List String := [
  ">>>=", "...", "===", "!==", ">>>", "<<=", ">>=", "**=", "&&", "||", "==", "!=", "+=", "-=", "*=",
  "/=", "++", "--", "<<", ">>", "&=", "|=", "^=", "%=", "<=", ">=", "=>", "**", "<", ">", "=", "!",
  "+", "-", "*", "%", "&", "|", "^", "/", "(", ")", "\x7b", "\x7d", "[", "]", ";", ",", ":", "?",
  "~", "."]

def bracesAfter (punctuator : String) (braces : List Brace) : List Brace :=
  if punctuator == "\x7b" then .plain :: braces
  else if punctuator == "\x7d" then braces.drop 1
  else braces

def punctuator (braces : List Brace) (cursor : Cursor) : Except SyntaxFault Lexed :=
  match punctuators.find? fun p => p.toList.isPrefixOf cursor.rest with
  | none => cursor.illegal
  | some value =>
    let behind := cursor.skip value.length
    .ok ⟨{ kind := .punctuator, value, start := cursor.index, line := behind.line }, behind,
      bracesAfter value braces⟩

/-! ## Numbers -/

def skipDigits (base : Nat) (cursor : Cursor) : Cursor :=
  cursor.skip (cursor.rest.takeWhile (Text.isDigitOf base)).length

def numberTo (start behind : Cursor) (octal : Bool) : Token × Cursor :=
  ({ kind := .number, value := String.ofList (start.rest.take (behind.index - start.index)),
     start := start.index, line := behind.line, octal }, behind)

def numberOf (base : Nat) (start marked : Cursor) : Except SyntaxFault (Token × Cursor) :=
  let behind := skipDigits base marked
  if behind.index == marked.index then behind.illegal
  else if Text.Identifier.isStart behind.peek || (base < 10 && behind.peek.isDigit) then
    behind.illegal
  else .ok (numberTo start behind false)

/-- Whether digits after a zero spell an octal number of the old form: none of them is eight or
nine. -/
def isOldOctal : List Char → Bool
  | [] => true
  | c :: rest =>
    if c == '8' || c == '9' then false
    else if Text.isDigitOf 8 c then isOldOctal rest
    else true

def exponent (cursor : Cursor) : Except SyntaxFault Cursor :=
  if cursor.peek == 'e' || cursor.peek == 'E' then
    let signed := cursor.skip 1
    let digits := if signed.peek == '+' || signed.peek == '-' then signed.skip 1 else signed
    if digits.peek.isDigit then .ok (skipDigits 10 digits) else digits.illegal
  else .ok cursor

def decimal (start : Cursor) : Except SyntaxFault (Token × Cursor) :=
  let whole := skipDigits 10 start
  let fraction := if whole.peek == '.' then skipDigits 10 (whole.skip 1) else whole
  match exponent fraction with
  | .error fault => .error fault
  | .ok behind =>
    if Text.Identifier.isStart behind.peek then behind.illegal
    else .ok (numberTo start behind false)

def number (cursor : Cursor) : Except SyntaxFault (Token × Cursor) :=
  let second := cursor.peekSecond
  if cursor.peek != '0' then decimal cursor
  else if second == 'x' || second == 'X' then numberOf 16 cursor (cursor.skip 2)
  else if second == 'b' || second == 'B' then numberOf 2 cursor (cursor.skip 2)
  else if second == 'o' || second == 'O' then numberOf 8 cursor (cursor.skip 2)
  else if Text.isDigitOf 8 second && isOldOctal (cursor.rest.drop 2) then
    let behind := skipDigits 8 (cursor.skip 1)
    if Text.Identifier.isStart behind.peek || behind.peek.isDigit then behind.illegal
    else .ok (numberTo cursor behind true)
  else decimal cursor

/-! ## Strings -/

/-- What a letter after a backslash stands for, if it stands for a control character. -/
def controlEscape? (c : Char) : Option Char :=
  match c with
  | 'n' => some '\n'
  | 'r' => some '\r'
  | 't' => some '\t'
  | 'b' => some (Char.ofNat 8)
  | 'f' => some (Char.ofNat 12)
  | 'v' => some (Char.ofNat 11)
  | _ => none

def skipLineEnd (cursor : Cursor) : Cursor :=
  if cursor.peek == '\r' && cursor.peekSecond == '\n' then (cursor.skip 2).newLine
  else (cursor.skip 1).newLine

/-- Reads an octal escape: its code, whether it is of the old form, and the place behind. -/
def octalEscape (cursor : Cursor) : Nat × Bool × Cursor :=
  let most := if cursor.peek ≤ '3' then 3 else 2
  let digits := (cursor.rest.take most).takeWhile (Text.isDigitOf 8)
  (Text.ofDigits 8 digits, digits != ['0'], cursor.skip digits.length)

/-- Reads the escape behind a backslash in a string: what it stands for, whether it is octal, and
the place behind. -/
def stringEscape (cursor : Cursor) : Except SyntaxFault (List Char × Bool × Cursor) :=
  let c := cursor.peek
  if isLineEnd c then .ok ([], false, skipLineEnd cursor)
  else if c == 'u' && cursor.peekSecond == '\x7b' then
    match codePoint (cursor.skip 2) with
    | .ok (code, behind) => .ok ([Text.ofCode code], false, behind)
    | .error fault => .error fault
  else if c == 'u' then
    match hexEscape 4 0 (cursor.skip 1) with
    | (some code, behind) => .ok ([Text.ofCode code], false, behind)
    | (none, behind) => behind.illegal
  else if c == 'x' then
    match hexEscape 2 0 (cursor.skip 1) with
    | (some code, behind) => .ok ([Text.ofCode code], false, behind)
    | (none, behind) => .error (behind.fault "Invalid hexadecimal escape sequence")
  else
    match controlEscape? c with
    | some control => .ok ([control], false, cursor.skip 1)
    | none =>
      if c == '8' || c == '9' then (cursor.skip 1).illegal
      else if Text.isDigitOf 8 c then
        let (code, octal, behind) := octalEscape cursor
        .ok ([Text.ofCode code], octal, behind)
      else .ok ([c], false, cursor.skip 1)

/-- Reads a string after what has been read of it, the latest first. The fuel bounds its length. -/
def stringRest (quote : Char) (start : Nat) : Nat → List Char → Bool → Cursor →
    Except SyntaxFault (List Char × Bool × Cursor)
  | 0, _, _, cursor => Cursor.illegal { cursor with index := start }
  | fuel + 1, read, octal, cursor =>
    match cursor.rest with
    | [] => Cursor.illegal { cursor with index := start }
    | c :: _ =>
      if c == quote then .ok (read, octal, cursor.skip 1)
      else if c == '\\' then
        match stringEscape (cursor.skip 1) with
        | .error fault => .error fault
        | .ok (chars, old, behind) =>
          stringRest quote start fuel (chars ++ read) (octal || old) behind
      else if isLineEnd c then Cursor.illegal { cursor with index := start }
      else stringRest quote start fuel (c :: read) octal (cursor.skip 1)

def string (cursor : Cursor) : Except SyntaxFault (Token × Cursor) :=
  match stringRest cursor.peek cursor.index cursor.rest.length [] false (cursor.skip 1) with
  | .error fault => .error fault
  | .ok (read, octal, behind) =>
    .ok ({ kind := .string, value := String.ofList read.reverse, start := cursor.index,
           line := behind.line, octal,
           raw := String.ofList (cursor.rest.take (behind.index - cursor.index)) }, behind)

/-! ## Templates -/

def templateEscape (cursor : Cursor) : Except SyntaxFault Cursor :=
  let c := cursor.peek
  let octal (at_ : Cursor) : Except SyntaxFault Cursor :=
    .error (at_.fault "Octal literals are not allowed in template strings.")
  if isLineEnd c then .ok (skipLineEnd cursor)
  else if c == 'u' && cursor.peekSecond == '\x7b' then (codePoint (cursor.skip 2)).map (·.2)
  else if c == 'u' then
    match hexEscape 4 0 (cursor.skip 1) with
    | (some _, behind) => .ok behind
    | (none, _) => .ok (cursor.skip 1)
  else if c == 'x' then
    match hexEscape 2 0 (cursor.skip 1) with
    | (some _, behind) => .ok behind
    | (none, behind) => .error (behind.fault "Invalid hexadecimal escape sequence")
  else if c == '0' then
    if cursor.peekSecond.isDigit then octal (cursor.skip 1) else .ok (cursor.skip 1)
  else if Text.isDigitOf 8 c then octal (cursor.skip 1)
  else .ok (cursor.skip 1)

/-- Moves behind a part of a template, and says whether the template ends there. The fuel bounds the
length of the part. -/
def templateRest : Nat → Cursor → Except SyntaxFault (Bool × Cursor)
  | 0, cursor => cursor.illegal
  | fuel + 1, cursor =>
    match cursor.rest with
    | [] => cursor.illegal
    | '\x60' :: _ => .ok (true, cursor.skip 1)
    | '$' :: '\x7b' :: _ => .ok (false, cursor.skip 2)
    | '\\' :: _ =>
      match templateEscape (cursor.skip 1) with
      | .ok behind => templateRest fuel behind
      | .error fault => .error fault
    | c :: _ => templateRest fuel (if isLineEnd c then skipLineEnd cursor else cursor.skip 1)

def template (braces : List Brace) (cursor : Cursor) : Except SyntaxFault Lexed :=
  match templateRest (cursor.rest.length + 1) (cursor.skip 1) with
  | .error fault => .error fault
  | .ok (tail, behind) =>
    let head := cursor.peek == '\x60'
    let length := behind.index - cursor.index - (if tail then 2 else 3)
    let outer := if head then braces else braces.drop 1
    .ok ⟨{ kind := .template, value := String.ofList ((cursor.rest.drop 1).take length),
           start := cursor.index, line := behind.line, head, tail }, behind,
      if tail then outer else .template :: outer⟩

/-! ## Regular expressions -/

/-- Moves behind the body of a regular expression; `inClass` says that a bracket is open. The fuel
bounds its length. -/
def regularBody : Nat → Bool → Cursor → Except SyntaxFault Cursor
  | 0, _, cursor => .error (cursor.fault "Invalid regular expression: missing /")
  | fuel + 1, inClass, cursor =>
    match cursor.rest with
    | [] => .error (cursor.fault "Invalid regular expression: missing /")
    | c :: _ =>
      let behind := cursor.skip 1
      if isLineEnd c then .error (behind.fault "Invalid regular expression: missing /")
      else if c == '\\' then
        if isLineEnd behind.peek then
          .error ((behind.skip 1).fault "Invalid regular expression: missing /")
        else regularBody fuel inClass (behind.skip 1)
      else if inClass then regularBody fuel (c != ']') behind
      else if c == '/' then .ok behind
      else regularBody fuel (c == '[') behind

/-- Moves behind the flags of a regular expression, which have no escapes. The fuel bounds their
number. -/
def regularFlags : Nat → Cursor → Except SyntaxFault Cursor
  | 0, cursor => .ok cursor
  | fuel + 1, cursor =>
    match cursor.rest with
    | [] => .ok cursor
    | c :: rest =>
      if !Text.Identifier.isPart c then .ok cursor
      else if c == '\\' && !rest.isEmpty then
        let escaped := cursor.skip 1
        if escaped.peek == 'u' then
          match hexEscape 4 0 (escaped.skip 1) with
          | (some _, behind) => behind.illegal
          | (none, _) => (escaped.skip 1).illegal
        else escaped.illegal
      else regularFlags fuel (cursor.skip 1)

def regular (cursor : Cursor) : Except SyntaxFault Cursor :=
  match regularBody (cursor.rest.length + 1) false (cursor.skip 1) with
  | .error fault => .error fault
  | .ok behind => regularFlags behind.rest.length behind

end Lex

def lex (braces : List Brace) (cursor : Cursor) : Except SyntaxFault Lexed :=
  let kept : Except SyntaxFault (Token × Cursor) → Except SyntaxFault Lexed
    | .ok (token, behind) => .ok ⟨token, behind, braces⟩
    | .error fault => .error fault
  match cursor.rest with
  | [] => .ok ⟨{ kind := .finish, value := "", start := cursor.index, line := cursor.line }, cursor,
      braces⟩
  | c :: _ =>
    if Text.Identifier.isStart c then kept (Lex.word cursor)
    else if c == '\'' || c == '"' then kept (Lex.string cursor)
    else if c.isDigit || (c == '.' && cursor.peekSecond.isDigit) then kept (Lex.number cursor)
    else if c == '\x60' || (c == '\x7d' && braces.head? == some .template) then
      Lex.template braces cursor
    else Lex.punctuator braces cursor

namespace Token

/-- The number that a numeral of another base than ten stands for. -/
def ofBase? (octal : Bool) : List Char → Option Nat
  | '0' :: c :: digits =>
    if c == 'x' || c == 'X' then some (Text.ofDigits 16 digits)
    else if c == 'o' || c == 'O' then some (Text.ofDigits 8 digits)
    else if c == 'b' || c == 'B' then some (Text.ofDigits 2 digits)
    else if octal then some (Text.ofDigits 8 (c :: digits))
    else none
  | _ => none

/-- The number that a decimal numeral stands for, as messages show it. -/
def decimalText (numeral : List Char) : String :=
  let isMark (c : Char) := c == 'e' || c == 'E'
  let mantissa := numeral.takeWhile fun c => !isMark c
  let exponent := (numeral.dropWhile fun c => !isMark c).drop 1
  let fraction := (mantissa.dropWhile (· != '.')).drop 1
  let size := Text.ofDigits 10 (exponent.filter Char.isDigit)
  let power : Int := if exponent.head? == some '-' then -(size : Int) else size
  let scale := power - fraction.length
  let number := Binary64.ofDecimal false (Text.ofDigits 10 (mantissa.filter Char.isDigit)) scale
  match number.toInt? with
  | some n => toString n
  | none => number.text Binary64.inMessages

/-- Whether the token is a number with too many digits to be shown. Decimal numerals are rounded, so
they never have. -/
def isOversized (token : Token) : Bool :=
  token.kind == .number &&
    match ofBase? token.octal token.value.toList with
    | some n => Text.isOversized n
    | none => false

def shown (token : Token) : String :=
  if token.kind == .number then
    match ofBase? token.octal token.value.toList with
    | some n => toString n
    | none => decimalText token.value.toList
  else Text.shown token.value

end Token

end Rubric.Script
