import Rubric.Display.Line
import Rubric.Text.Cells

/-!
# Lines that fit

A text is cut into lines of a given number of cells, between words where that is possible. A word
that is too long for a line is either folded onto several lines or cut off with an ellipsis. Blanks
belong to the word before them and may stand out beyond the end of a line.
-/

namespace Rubric.Display

/-- What becomes of a word that is too long for a line. -/
inductive Overflow where
  | folded
  | ellipsis
deriving DecidableEq

/-! ## Tabs -/

def tabSize : Nat := 8

/-- A line with blanks up to the next stop in place of each tab. `column` counts the cells since the
last tab stop. -/
def expandTabs (column : Nat) : List Char → List Char
  | [] => []
  | '\t' :: rest =>
    List.replicate (tabSize - column % tabSize) ' ' ++ expandTabs 0 rest
  | c :: rest => c :: expandTabs (column + Text.cells c) rest

/-! ## Words -/

/-- The words of a line, each with the blanks behind it; the first has the blanks before it too.
`word` is what has been read of a word, latest first. -/
def wordsFrom (word : List Char) : List Char → List (List Char)
  | [] => [word.reverse]
  | c :: rest =>
    match word with
    | last :: _ =>
      if Text.isBlank last && !Text.isBlank c && !word.all Text.isBlank then
        word.reverse :: wordsFrom [c] rest
      else wordsFrom (c :: word) rest
    | [] => wordsFrom [c] rest

def wordCells (word : List Char) : Nat :=
  Text.cellsOf (word.reverse.dropWhile Text.isBlank).reverse

/-- The pieces of a word that fit a width. `used` counts the cells of `piece`, which is what has
been read of a piece, latest first. -/
def chop (width used : Nat) (piece : List Char) : List Char → List (List Char)
  | [] => [piece.reverse]
  | c :: rest =>
    if width < used + Text.cells c then piece.reverse :: chop width (Text.cells c) [c] rest
    else chop width (used + Text.cells c) (c :: piece) rest

/-! ## Lines -/

/-- The lines made so far, latest first, and the one in the making. -/
structure Wrapping where
  done : List (List Char) := []
  line : List Char := []
  used : Nat := 0  -- cells of the line in the making

namespace Wrapping

/-- Goes on with a piece on a line of its own. There is nothing to end before the first piece. -/
def start (wrapping : Wrapping) (piece : List Char) : Wrapping :=
  { done := if wrapping.done.isEmpty && wrapping.line.isEmpty then []
      else wrapping.line :: wrapping.done
    line := piece
    used := Text.cellsOf piece }

def add (overflow : Overflow) (width : Nat) (wrapping : Wrapping) (word : List Char) : Wrapping :=
  let size := wordCells word
  if wrapping.used + size ≤ width then
    { wrapping with line := wrapping.line ++ word, used := wrapping.used + Text.cellsOf word }
  else if width < size && overflow = .folded then (chop width 0 [] word).foldl start wrapping
  else wrapping.start word

def lines (wrapping : Wrapping) : List (List Char) :=
  (wrapping.line :: wrapping.done).reverse

end Wrapping

def divide (overflow : Overflow) (width : Nat) (line : List Char) : List (List Char) :=
  ((wordsFrom [] line).foldl (Wrapping.add overflow width) {}).lines

def dropExcess (width : Nat) (line : List Char) : List Char :=
  let blanks := (line.reverse.takeWhile Text.isBlank).length
  line.take (line.length - min blanks (line.length - width))

/-- The front of a line that takes just so many cells. A character of two cells that would stand out
leaves a blank. -/
def cropTo : Nat → List Char → List Char
  | 0, _ => []
  | _, [] => []
  | room + 1, c :: rest =>
    if room + 1 < Text.cells c then [' '] else c :: cropTo (room + 1 - Text.cells c) rest

def crop (overflow : Overflow) (width : Nat) (line : List Char) : List Char :=
  if Text.cellsOf line ≤ width then line
  else
    match overflow with
    | .folded => cropTo width line
    | .ellipsis => cropTo (width - 1) line ++ ['…']

def wrap (overflow : Overflow) (width : Nat) (text : List Char) : List (List Char) :=
  (splitOn (· == '\n') [] text).flatMap fun line =>
    (divide overflow width (expandTabs 0 line)).map fun line =>
      crop overflow width (dropExcess width line)

end Rubric.Display
