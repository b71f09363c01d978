import Rubric.Text.Blank

/-!
# Lines of a report

Reports are given as lines of plain text with single blanks, free of frames.
-/

namespace Rubric.Display

def isFrame (c : Char) : Bool :=
  0x2500 ≤ c.toNat && c.toNat ≤ 0x257F

def isLineBreak (c : Char) : Bool :=
  let n := c.toNat
  (10 ≤ n && n ≤ 13) || (0x1C ≤ n && n ≤ 0x1E) || n == 0x85 || n == 0x2028 || n == 0x2029

/-- Splits characters where a test holds; `part` is what has been read of a part, latest first. -/
def splitOn (isBreak : Char → Bool) (part : List Char) : List Char → List (List Char)
  | [] => [part.reverse]
  | c :: rest =>
    if isBreak c then part.reverse :: splitOn isBreak [] rest else splitOn isBreak (c :: part) rest

/-- The words of a line with single blanks between them. -/
def tidy (line : List Char) : String :=
  let words := (splitOn Text.isBlank [] (line.filter fun c => !isFrame c)).filter (!·.isEmpty)
  " ".intercalate (words.map String.ofList)

def linesOf (text : List Char) : List String :=
  ((splitOn isLineBreak [] text).map tidy).filter (!·.isEmpty)

end Rubric.Display
