/-!
# Parts of texts

A text is divided at some of its characters; parts that would be empty do not count.
-/

namespace Rubric.Text

/-- The parts of a text between the characters that divide it, without empty ones. -/
def parts (divides : Char → Bool) (chars : List Char) : List (List Char) :=
  let (first, rest) := chars.foldr (fun c (first, rest) =>
    if divides c then ([], if first.isEmpty then rest else first :: rest)
    else (c :: first, rest)) ([], [])
  if first.isEmpty then rest else first :: rest

end Rubric.Text
