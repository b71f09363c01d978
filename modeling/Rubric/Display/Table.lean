import Rubric.Display.Wrap

/-!
# Tables

A table has rows of cells, the headings first. A column is as wide as its widest cell, with a blank
on either side. If the columns do not fit beside each other, the widest ones are made narrower, and
cells that are then too long go over several lines.
-/

namespace Rubric.Display.Table

def padding : Nat := 2

def textWidth (text : String) : Nat :=
  ((splitOn isLineBreak [] text.toList).map Text.cellsOf).foldl max 0

/-- The cells of each column of a table, of which the texts of each row are given. -/
def contentWidths (rows : List (List String)) : List Nat :=
  match rows with
  | [] => []
  | first :: _ =>
    (List.range first.length).map fun n =>
      (rows.map fun row => textWidth (row.getD n "")).foldl max 0

/-! ## Columns that fit -/

/-- The whole number nearest to a quotient, the even one if two are. -/
def nearest (dividend divisor : Nat) : Nat :=
  let quotient := dividend / divisor
  let rest := 2 * (dividend % divisor)
  if divisor < rest || (rest == divisor && quotient % 2 == 1) then quotient + 1 else quotient

/-- Takes an excess in even shares from the widths of `count` columns, those that are `widest`; none
gives more than `most`. -/
def takeShares (widest most : Nat) : Nat → Nat → List Nat → List Nat
  | _, _, [] => []
  | count, excess, width :: rest =>
    if width == widest && 0 < count then
      let share := min most (nearest excess count)
      (width - share) :: takeShares widest most (count - 1) (excess - share) rest
    else width :: takeShares widest most count excess rest

def narrowOnce (excess : Nat) (widths : List Nat) : List Nat :=
  let widest := widths.foldl max 0
  let next := (widths.filter (· != widest)).foldl max 0
  takeShares widest (min excess (widest - next)) (widths.count widest) excess widths

/-- Makes the widest columns narrower until all fit a room. The fuel bounds the number of times. -/
def narrow (room : Nat) : Nat → List Nat → List Nat
  | 0, widths => widths
  | fuel + 1, widths =>
    let total := widths.foldl (· + ·) 0
    if total ≤ room then widths else narrow room fuel (narrowOnce (total - room) widths)

def columnWidths (room : Nat) (rows : List (List String)) : List Nat :=
  let widths := (contentWidths rows).map fun width => min room (width + padding)
  narrow room (widths.foldl (· + ·) 0) widths

/-! ## Rows -/

def rowLines (widths : List Nat) (row : List String) : List String :=
  let columns := (row.zip widths).map fun (cell, width) =>
    wrap .ellipsis (width - padding) cell.toList
  let height := (columns.map List.length).foldl max 0
  (List.range height).flatMap fun n =>
    linesOf ([' '].intercalate (columns.map fun column => column.getD n []))

def lines (room : Nat) (rows : List (List String)) : List String :=
  rows.flatMap (rowLines (columnWidths room rows))

end Rubric.Display.Table
