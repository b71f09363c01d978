import Rubric.Markup.Emoji.Table
import Rubric.Text.Blank
import Rubric.Text.Lower
import Rubric.Text.Parts

/-!
# Pictures by name

A name between colons, such as `:smile:`, stands for a picture. The endings `-emoji` and `-text`
choose how the picture is to look. A name that is not known stays as it is, with its colons.
-/

namespace Rubric.Markup.Emoji

/-- The entries of the table, each split at its equals sign. -/
def entries : List (String × String) :=
  (Text.parts (fun c => c == ' ' || c == '\n') table.toList).map fun entry =>
    (String.ofList (entry.takeWhile (· != '=')),
      String.ofList ((entry.dropWhile (· != '=')).drop 1))

inductive Look where
  | picture
  | text

def Look.selector : Look → Char
  | .picture => '\ufe0f'
  | .text => '\ufe0e'

def withoutEnding? (ending : String) (chars : List Char) : Option (List Char) :=
  if ending.toList.isSuffixOf chars then some (chars.take (chars.length - ending.length)) else none

/-- The name and the look that stand between two colons. -/
def split (chars : List Char) : List Char × Option Look :=
  match withoutEnding? "-emoji" chars, withoutEnding? "-text" chars with
  | some name, _ => (name, some .picture)
  | none, some name => (name, some .text)
  | none, none => (chars, none)

def picture? (chars : List Char) : Option (List Char) :=
  let (name, look) := split chars
  (entries.lookup (Text.lower (String.ofList name))).map fun picture =>
    picture.toList ++ (look.map Look.selector).toList

/-- What stands between the colon at the front and the next one, and what follows that. There is no
blank between them. -/
def code? : List Char → Option (List Char × List Char)
  | ':' :: rest =>
    let name := rest.takeWhile fun c => c != ':' && !Text.isBlank c
    match rest.drop name.length with
    | ':' :: behind => some (name, behind)
    | _ => none
  | _ => none

/-- The text with pictures in place of their names. The fuel bounds the number of characters. -/
def replaceFrom : Nat → List Char → List Char
  | 0, cs => cs
  | _, [] => []
  | fuel + 1, c :: rest =>
    match code? (c :: rest) with
    | some (name, behind) =>
      ((picture? name).getD (':' :: name ++ [':'])) ++ replaceFrom fuel behind
    | none => c :: replaceFrom fuel rest

def replace (chars : List Char) : List Char :=
  replaceFrom chars.length chars

end Rubric.Markup.Emoji
