import Rubric.Text.CharacterName
import Rubric.Text.Integer

/-!
# Literals

What a tag hands to a handler must be a literal: a number, perhaps with a sign, or the sum of a real
and an imaginary number; a text or bytes; `None`, `True`, `False` or `...`; and tuples, sets and
dictionaries of literals. Members of sets and keys of dictionaries hold neither sets nor
dictionaries. Square brackets do not occur, since they would end the tag.
-/

namespace Rubric.Markup.Literal

inductive Token where
  | number (imaginary : Bool)
  | text
  | bytes
  | word (chars : List Char)
  | ellipsis
  | mark (c : Char)
  | lineEnd  -- outside all brackets
deriving DecidableEq

/-! ## Numbers -/

/-- The digits of a base at the front, with single underscores between them, and what follows;
nothing if there are none. -/
def digits? (isDigit : Char → Bool) (chars : List Char) : Option (List Char × List Char) :=
  let run := chars.takeWhile fun c => isDigit c || c == '_'
  if (Text.spelledDigits false (run.map fun c => if isDigit c then '0' else c)).isSome then
    some (run.filter (· != '_'), chars.drop run.length)
  else none

def behindExponent (chars : List Char) : Option (List Char) :=
  match chars with
  | c :: rest =>
    if c == 'e' || c == 'E' then
      let rest := match rest with
        | d :: more => if d == '+' || d == '-' then more else d :: more
        | [] => []
      (digits? Char.isDigit rest).map (·.2)
    else some chars
  | [] => some []

def behindFraction (chars : List Char) : Option (List Char) :=
  match chars with
  | '.' :: c :: rest =>
    if c.isDigit then (digits? Char.isDigit (c :: rest)).map (·.2) else some (c :: rest)
  | ['.'] => some []
  | chars => some chars

def continuesWord (c : Char) : Bool :=
  c.isAlphanum || c == '_' || c.toNat ≥ 128

def ending (chars : List Char) : Option (Token × List Char) :=
  let (imaginary, rest) := match chars with
    | c :: rest => if c == 'j' || c == 'J' then (true, rest) else (false, c :: rest)
    | [] => (false, [])
  if (rest.head?.map continuesWord).getD false then none else some (.number imaginary, rest)

/-- A decimal number. An integer that is not zero has neither zeros in front nor too many digits. -/
def decimal (chars : List Char) : Option (Token × List Char) := do
  let (whole, rest) ← if chars.head? == some '.' then some ([], chars)
    else digits? Char.isDigit chars
  let behind ← (behindFraction rest).bind behindExponent
  let (token, rest') ← ending behind
  let isInteger := behind.length == rest.length && token == .number false
  let isSound := whole.all (· == '0') ||
    (whole.head? != some '0' && whole.length ≤ Text.mostDigits)
  if isInteger && !isSound then none else some (token, rest')

def number (chars : List Char) : Option (Token × List Char) :=
  let ofBase (base : Nat) (rest : List Char) : Option (Token × List Char) := do
    let rest := if rest.head? == some '_' then rest.drop 1 else rest
    let (_, rest) ← digits? (Text.isDigitOf base) rest
    if (rest.head?.map continuesWord).getD false then none else some (.number false, rest)
  match chars with
  | '0' :: c :: rest =>
    if c == 'x' || c == 'X' then ofBase 16 rest
    else if c == 'o' || c == 'O' then ofBase 8 rest
    else if c == 'b' || c == 'B' then ofBase 2 rest
    else decimal chars
  | chars => decimal chars

/-! ## Texts -/

structure Manner where
  bytes : Bool := false
  raw : Bool := false

/-- What letters in front of a quote ask for, if they may stand there. -/
def manner? (letters : List Char) : Option Manner :=
  match String.ofList (letters.map Char.toLower) with
  | "" | "u" => some {}
  | "r" => some { raw := true }
  | "b" => some { bytes := true }
  | "br" | "rb" => some { bytes := true, raw := true }
  | _ => none

/-- The contents of a text behind its opening quotes, and what follows its closing ones. A text in
single quotes ends on its line. -/
def body (quotes : List Char) : List Char → Option (List Char × List Char)
  | [] => none
  | '\\' :: c :: rest => (body quotes rest).map fun (chars, behind) => ('\\' :: c :: chars, behind)
  | c :: rest =>
    if quotes.isPrefixOf (c :: rest) then some ([], (c :: rest).drop quotes.length)
    else if c == '\n' && quotes.length == 1 then none
    else (body quotes rest).map fun (chars, behind) => (c :: chars, behind)

/-- Whether characters begin with a number of hexadecimal digits that give a character. -/
def beginsWithCode (count : Nat) (chars : List Char) : Bool :=
  let digits := (chars.take count).takeWhile (Text.isDigitOf 16)
  digits.length == count && Text.ofDigits 16 digits ≤ 0x10FFFF

def beginsWithName : List Char → Bool
  | c :: rest =>
    let name := rest.takeWhile (· != '\x7d')
    c == '\x7b' && name.length < rest.length && (Text.CharacterName.code? name).isSome
  | [] => false

def escapesAreSound (bytes : Bool) : List Char → Bool
  | '\\' :: c :: rest =>
    (if c == 'x' then beginsWithCode 2 rest
     else if bytes then true
     else if c == 'u' then beginsWithCode 4 rest
     else if c == 'U' then beginsWithCode 8 rest
     else if c == 'N' then beginsWithName rest
     else true) && escapesAreSound bytes rest
  | _ :: rest => escapesAreSound bytes rest
  | [] => true

def text (letters chars : List Char) : Option (Token × List Char) := do
  let manner ← manner? letters
  let quotes := match chars with
    | a :: b :: c :: _ => if a == b && b == c then [a, b, c] else [a]
    | chars => chars.take 1
  let (contents, rest) ← body quotes (chars.drop quotes.length)
  guard (manner.raw || escapesAreSound manner.bytes contents)
  guard (!manner.bytes || contents.all (·.toNat < 128))
  return (if manner.bytes then .bytes else .text, rest)

/-! ## Tokens -/

def depthLimit : Nat := 200

/-- The tokens of a literal inside some number of brackets. Inside brackets the ends of lines do not
count. The fuel bounds the number of characters. -/
def tokens : Nat → Nat → List Char → Option (List Token)
  | 0, _, _ => none
  | _, _, [] => some []
  | fuel + 1, depth, c :: rest =>
    let further (token : Token) (depth : Nat) (rest : List Char) :=
      (tokens fuel depth rest).map (token :: ·)
    if c == ' ' || c == '\t' || c.toNat == 12 then tokens fuel depth rest
    else if c == '\n' then if depth == 0 then further .lineEnd 0 rest else tokens fuel depth rest
    else if c == '#' then tokens fuel depth (rest.dropWhile (· != '\n'))
    else if c == '\\' then
      match rest with
      | '\n' :: d :: rest => tokens fuel depth (d :: rest)
      | _ => none
    else if c == '(' || c == '\x7b' then
      if depth < depthLimit then further (.mark c) (depth + 1) rest else none
    else if c == ')' || c == '\x7d' then
      if 0 < depth then further (.mark c) (depth - 1) rest else none
    else if c == ',' || c == ':' || c == '+' || c == '-' then further (.mark c) depth rest
    else if ['.', '.', '.'].isPrefixOf (c :: rest) then further .ellipsis depth (rest.drop 2)
    else if c.isDigit || (c == '.' && (rest.head?.map Char.isDigit).getD false) then
      match number (c :: rest) with
      | some (token, rest) => further token depth rest
      | none => none
    else
      let letters := (c :: rest).takeWhile fun d => d.isAlphanum || d == '_'
      let behind := (c :: rest).drop letters.length
      if behind.head? == some '\'' || behind.head? == some '"' then
        match text letters behind with
        | some (token, rest) => further token depth rest
        | none => none
      else if letters.isEmpty then none
      else further (.word letters) depth behind

/-! ## Literals -/

inductive Shape where
  | number (imaginary : Bool)
  | signed (imaginary : Bool)
  | setWord  -- it must be called
  | other (hashable : Bool)  -- whether it can be a member of a set
deriving DecidableEq

namespace Shape

def isLiteral : Shape → Bool
  | .setWord => false
  | _ => true

def hashable : Shape → Bool
  | .setWord => false
  | .other hashable => hashable
  | _ => true

def isReal : Shape → Bool
  | .number imaginary => !imaginary
  | .signed imaginary => !imaginary
  | _ => false

end Shape

abbrev Reader (α : Type) := List Token → Option (α × List Token)

def moreTexts (token : Token) (rest : List Token) : Option (Shape × List Token) :=
  let rest := rest.dropWhile (· == token)
  if rest.head? == some .text || rest.head? == some .bytes then none else some (.other true, rest)

mutual

/-- A literal without a sign. The fuel bounds the number of tokens. -/
def atom : Nat → Reader Shape
  | 0, _ => none
  | fuel + 1, tokens => do
    let (shape, rest) ← match tokens with
      | .number imaginary :: rest => some (.number imaginary, rest)
      | .text :: rest => moreTexts .text rest
      | .bytes :: rest => moreTexts .bytes rest
      | .ellipsis :: rest => some (.other true, rest)
      | .word chars :: rest =>
        match String.ofList chars with
        | "None" | "True" | "False" => some (.other true, rest)
        | "set" => some (.setWord, rest)
        | _ => none
      | .mark '(' :: .mark ')' :: rest => some (.other true, rest)
      | .mark '(' :: rest => tuple fuel rest
      | .mark '\x7b' :: .mark '\x7d' :: rest => some (.other false, rest)
      | .mark '\x7b' :: rest => collection fuel rest
      | _ => none
    match shape, rest with
    | .setWord, .mark '(' :: .mark ')' :: rest => some (.other false, rest)
    | shape, rest => some (shape, rest)

def expression : Nat → Reader Shape
  | 0, _ => none
  | fuel + 1, tokens => do
    let (left, rest) ← match tokens with
      | .mark c :: rest =>
        if c == '+' || c == '-' then
          match atom fuel rest with
          | some (.number imaginary, rest) => some (.signed imaginary, rest)
          | _ => none
        else atom fuel tokens
      | tokens => atom fuel tokens
    match rest with
    | .mark c :: behind =>
      if c == '+' || c == '-' then
        match atom fuel behind with
        | some (.number true, rest) => if left.isReal then some (.other true, rest) else none
        | _ => none
      else some (left, rest)
    | rest => some (left, rest)

/-- What is in parentheses, behind the opening one: a literal, or several with commas. -/
def tuple : Nat → Reader Shape
  | 0, _ => none
  | fuel + 1, tokens => do
    let (first, rest) ← expression fuel tokens
    match rest with
    | .mark ')' :: rest => some (first, rest)
    | rest => do
      guard first.isLiteral
      let (hashable, rest) ← others fuel ')' rest
      return (.other (first.hashable && hashable), rest)

/-- The literals behind the first and the bracket that closes them; whether all can be members of a
set. -/
def others : Nat → Char → Reader Bool
  | 0, _, _ => none
  | _, _, [] => none
  | fuel + 1, closing, token :: rest =>
    if token == .mark closing then some (true, rest)
    else if token != .mark ',' then none
    else if rest.head? == some (.mark closing) then some (true, rest.drop 1)
    else do
      let (shape, rest) ← expression fuel rest
      guard shape.isLiteral
      let (hashable, rest) ← others fuel closing rest
      return (shape.hashable && hashable, rest)

/-- What is in braces, behind the opening one: the members of a set or of a dictionary. -/
def collection : Nat → Reader Shape
  | 0, _ => none
  | fuel + 1, tokens => do
    let (first, rest) ← expression fuel tokens
    guard first.hashable
    match rest with
    | .mark ':' :: rest => do
      let (value, rest) ← expression fuel rest
      guard value.isLiteral
      entries fuel rest
    | rest => do
      let (hashable, rest) ← others fuel '\x7d' rest
      guard hashable
      return (.other false, rest)

/-- The entries of a dictionary behind the first, and the brace that closes it. -/
def entries : Nat → Reader Shape
  | 0, _ => none
  | fuel + 1, tokens =>
    match tokens with
    | .mark '\x7d' :: rest => some (.other false, rest)
    | .mark ',' :: .mark '\x7d' :: rest => some (.other false, rest)
    | .mark ',' :: rest => do
      let (key, rest) ← expression fuel rest
      guard key.hashable
      match rest with
      | .mark ':' :: rest => do
        let (value, rest) ← expression fuel rest
        guard value.isLiteral
        entries fuel rest
      | _ => none
    | _ => none

end

/-- Whether tokens are a literal, or several with commas. The fuel bounds their number. -/
def areSound (fuel : Nat) (tokens : List Token) : Bool :=
  let line := tokens.takeWhile (· != .lineEnd)
  let rest := tokens.drop line.length
  (rest.all (· == .lineEnd)) &&
    match expression fuel line with
    | some (shape, []) => shape.isLiteral
    | some (shape, rest) => shape.isLiteral && (others fuel ')' (rest ++ [.mark ')'])).isSome
    | none => false

def withLineFeeds : List Char → List Char
  | '\r' :: '\n' :: rest => '\n' :: withLineFeeds rest
  | '\r' :: rest => '\n' :: withLineFeeds rest
  | c :: rest => c :: withLineFeeds rest
  | [] => []

/-- The text from its first token on, after lines that hold none, given how far the line has been
indented; the line with the first token must not be indented. The fuel bounds the number of
characters. -/
def fromFirstToken : Nat → Nat → List Char → Option (List Char)
  | 0, _, _ => none
  | _, _, [] => some []
  | fuel + 1, indent, c :: rest =>
    if c == ' ' || c == '\t' then fromFirstToken fuel (indent + 1) rest
    else if c == '\n' || c.toNat == 12 then fromFirstToken fuel 0 rest
    else if c == '#' then fromFirstToken fuel 0 (rest.dropWhile (· != '\n'))
    else if c == '\\' then
      match rest with
      | '\n' :: d :: rest => fromFirstToken fuel indent (d :: rest)
      | _ => none
    else if indent == 0 then some (c :: rest)
    else none

def isLiteral (chars : List Char) : Bool :=
  let chars := withLineFeeds chars
  let fuel := chars.length + 1
  match (fromFirstToken fuel 0 chars).bind (tokens fuel 0) with
  | some tokens => areSound (4 * tokens.length + 8) tokens
  | none => false

end Rubric.Markup.Literal
