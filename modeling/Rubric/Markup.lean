import Rubric.Markup.Emoji
import Rubric.Markup.Literal
import Rubric.Markup.Style
import Rubric.Text.Word

/-!
# Markup

Text for the terminal may hold tags in brackets, such as `[bold]` and `[/bold]`, that change its
style, and names of pictures between colons. `escape` guards text in which brackets are meant as
they stand, and `plain` gives the text that is left when the tags are taken out.
-/

namespace Rubric.Markup

def opensTag (c : Char) : Bool :=
  ('a' ≤ c && c ≤ 'z') || c == '#' || c == '/' || c == '@'

def tag? : List Char → Option (List Char × List Char)
  | '[' :: c :: rest =>
    if opensTag c then
      match rest.dropWhile fun d => d != ']' && d != '[' with
      | ']' :: behind => some (c :: rest.takeWhile fun d => d != ']' && d != '[', behind)
      | _ => none
    else none
  | _ => none

/-- Guards the tags of a text. A run of backslashes before a tag is written twice and one more is
added. `run` counts the backslashes read just before. -/
def escapeFrom (run : Nat) : List Char → List Char
  | [] => List.replicate run '\\'
  | '\\' :: rest => escapeFrom (run + 1) rest
  | c :: rest =>
    let backslashes := match tag? (c :: rest) with
      | some _ => 2 * run + 1
      | none => run
    List.replicate backslashes '\\' ++ c :: escapeFrom 0 rest

/-- Guards a text, so that it is shown as it stands. A single backslash at the end is written twice,
because a tag may follow. -/
def escape (text : String) : String :=
  let guarded := escapeFrom 0 text.toList
  let ending := guarded.reverse.takeWhile (· == '\\')
  String.ofList (if ending.length == 1 then guarded ++ ['\\'] else guarded)

inductive Piece where
  | text (chars : List Char)
  | tag (chars : List Char)

def unguard : List Char → List Char
  | '\\' :: '[' :: rest => '[' :: unguard rest
  | c :: rest => c :: unguard rest
  | [] => []

def guardedTag (run : Nat) (chars : List Char) : List Piece :=
  let half := .text (List.replicate (run / 2) '\\')
  if run % 2 == 1 then [half, .text ('[' :: chars ++ [']'])] else [half, .tag chars]

/-- The pieces of a text, after the characters of the present one, latest first, and a run of
backslashes. The fuel bounds the number of characters. -/
def piecesFrom : Nat → List Char → Nat → List Char → List Piece
  | 0, _, _, _ => []
  | fuel + 1, read, run, cs =>
    let held := List.replicate run '\\' ++ read
    match cs with
    | [] => [.text held.reverse]
    | '\\' :: rest => piecesFrom fuel read (run + 1) rest
    | c :: rest =>
      match tag? (c :: rest) with
      | some (chars, behind) =>
        .text read.reverse :: (guardedTag run chars ++ piecesFrom fuel [] 0 behind)
      | none => piecesFrom fuel (c :: held) 0 rest

/-! ## Tags -/

inductive Fault where
  /-- A tag closes one that is not open, or hands a handler something that is no literal. -/
  | unsound
  | color (fault : Color.Fault)

/-- A tag by its normal form, with the parameters behind its equals sign. -/
structure Tag where
  name : String
  parameters : Option (List Char) := none

def splitTag (chars : List Char) : List Char × Option (List Char) :=
  match chars.dropWhile (· != '=') with
  | [] => (chars, none)
  | _ :: parameters => (chars.takeWhile (· != '='), some parameters)

def normalName (chars : List Char) : Except Fault String :=
  (Style.normalized chars).mapError .color

/-- What parameters hand to a handler: what stands in parentheses behind its name, nothing if there
is only the name, and otherwise all of them. -/
def handed (parameters : List Char) : List Char :=
  let trimmed := Text.strip Text.isBlank parameters
  let name := trimmed.takeWhile fun c => Text.isWord c || c == '.'
  let rest := trimmed.drop name.length
  if rest.isEmpty then ['(', ')']
  else if rest.head? == some '(' && rest.getLast? == some ')' && !rest.contains '\n' then rest
  else trimmed

def Tag.mayClose (tag : Tag) : Bool :=
  match tag.name.toList, tag.parameters with
  | '@' :: _, some parameters => parameters.isEmpty || Literal.isLiteral (handed parameters)
  | _, _ => true

/-- The open tags after one is closed, given whether it is the one to be closed. -/
def closeFirst (isMeant : Tag → Bool) : List Tag → Except Fault (List Tag)
  | [] => .error .unsound
  | tag :: rest =>
    if isMeant tag then if tag.mayClose then .ok rest else .error .unsound
    else (closeFirst isMeant rest).map (tag :: ·)

def tagsAfter (tags : List Tag) (chars : List Char) : Except Fault (List Tag) := do
  let (name, parameters) := splitTag chars
  match name with
  | '/' :: closed =>
    let closed := Text.strip Text.isBlank closed
    if closed.isEmpty then closeFirst (fun _ => true) tags
    else
      let name ← normalName closed
      closeFirst (·.name == name) tags
  | name => return ⟨← normalName name, parameters⟩ :: tags

/-- The style of a tag with parameters must not hold a faulty colour. -/
def checkStyle (chars : List Char) : Except Fault Unit :=
  match splitTag chars with
  | ('/' :: _, _) => .ok ()
  | (name, some parameters) => do
    let name ← normalName name
    discard (normalName (name.toList ++ ' ' :: parameters))
  | (_, none) => .ok ()

def showPieces (tags : List Tag) : List Piece → Except Fault (List Char)
  | [] => .ok []
  | .text chars :: rest => do
    let shown ← showPieces tags rest
    return Emoji.replace (unguard chars) ++ shown
  | .tag chars :: rest => do
    let tags ← tagsAfter tags chars
    let shown ← showPieces tags rest
    checkStyle chars
    return shown

def isDropped (c : Char) : Bool :=
  c.toNat == 7 || c.toNat == 8 || c.toNat == 11 || c.toNat == 12 || c.toNat == 13

def plain (markup : String) : Except Fault String := do
  let cs := markup.toList
  let shown ← if cs.contains '[' then showPieces [] (piecesFrom (cs.length + 1) [] 0 cs)
    else pure (Emoji.replace cs)
  return String.ofList (shown.filter fun c => !isDropped c)

end Rubric.Markup
