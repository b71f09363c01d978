import Rubric.Requirement
import Rubric.Text.Blank
import Rubric.Text.Lower

/-!
# Messages

What a report says about each requirement, in plain words. The type `WhileStatement` reads "while
statement", and a list reads "a, b and c".
-/

namespace Rubric.Message

/-- Puts a blank between a lower-case and an upper-case letter that follows it, both of ASCII. -/
def spaced : List Char → List Char
  | a :: b :: rest =>
    if a.isLower && b.isUpper then a :: ' ' :: b :: spaced rest else a :: spaced (b :: rest)
  | cs => cs

def humanize (type : String) : String :=
  Text.lower (String.ofList (spaced type.toList))

def isVowel (c : Char) : Bool :=
  c == 'a' || c == 'e' || c == 'i' || c == 'o' || c == 'u'

def article (name : String) : String :=
  match name.toList with
  | c :: _ => if isVowel c then "an" else "a"
  | [] => "a"

def withArticle (name : String) : String :=
  article name ++ " " ++ name

/-- Items as prose: commas between them and "and" before the last. -/
def proseList : List String → String
  | [] => ""
  | [item] => item
  | [first, last] => first ++ " and " ++ last
  | item :: rest => item ++ ", " ++ proseList rest

mutual

/-- An entry with its article, and what it contains. -/
def describe : Entry → String
  | .type name => withArticle (humanize name)
  | .nested parent [] => withArticle (humanize parent)
  | .nested parent (first :: rest) =>
    withArticle (humanize parent) ++ " containing " ++
      proseList (describe first :: describeAll rest)

def describeAll : List Entry → List String
  | [] => []
  | entry :: rest => describe entry :: describeAll rest

end

def must (type : String) (passed : Bool) : String :=
  (if passed then "Used " else "You must use ") ++ withArticle (humanize type)

def mustNot (type : String) (passed : Bool) : String :=
  (if passed then "You did not use " else "You must not use ") ++ withArticle (humanize type)

/-- What is said of a structure requirement. Without entries the sentence ends at the verb. -/
def containment (requirement : Requirement) (passed : Bool) : String :=
  Text.trimEnd ("The " ++ humanize requirement.parent ++
    (if passed then " contains " else " must contain ") ++
    proseList (describeAll requirement.contains))

end Rubric.Message
