import ScopeAlgebra.Console.Cells
import ScopeAlgebra.Json.Binary
import ScopeAlgebra.Text.Slice

/-!
# Columns of a table

A column is as wide as the longest line in it, counted without tabs. When all columns together are
too wide, the widest ones give way first, down to the next width below theirs.
-/

namespace ScopeAlgebra.Columns

/-- The blanks beside the content of a cell. -/
def padding : Nat := 2

/-- Whether a character ends a line where widths are measured. -/
def isLineEnd (c : Char) : Bool :=
  ['\n', '\x1c', '\x1d', '\x1e', '\x85', '\u2028', '\u2029'].contains c

/-- The width of the longest line of characters. -/
def widthOf (cs : List Char) : Nat := ((Text.parts isLineEnd cs).map Cells.size).foldl max 0

/-- The width of the widest column. -/
def greatest (widths : List Nat) : Nat := widths.foldl max 0

/-- The width of all columns together. -/
def together (widths : List Nat) : Nat := widths.foldr (· + ·) 0

/-- Takes an excess off the columns of one width, of which there are `count`, in even shares of at
most `most`. -/
def takeOff (width most : Nat) : Nat → Nat → List Nat → List Nat
  | _, _, [] => []
  | count, excess, w :: rest =>
    if w = width then
      let share := min most (Json.roundQuotient excess count)
      (w - share) :: takeOff width most (count - 1) (excess - share) rest
    else w :: takeOff width most count excess rest

/-- Makes columns fit into a total width, in so many steps. -/
def narrow (total : Nat) : Nat → List Nat → List Nat
  | 0, widths => widths
  | steps + 1, widths =>
    let excess := together widths - total
    if excess = 0 then widths
    else
      let widest := greatest widths
      let next := greatest (widths.filter (· ≠ widest))
      narrow total steps (takeOff widest (min excess (widest - next)) (widths.count widest)
        excess widths)

/-- The widths of the columns of a table, given its rows and its total width with borders and
padding. -/
def widthsWithin (total : Nat) (rows : List (List (List Char))) : List Nat :=
  let count := greatest (rows.map List.length)
  let total := total - (count + 1)
  let widths := (List.range count).map fun column =>
    min total (padding + greatest (rows.map fun cells => widthOf (cells.getD column [])))
  (narrow total (together widths) widths).map (· - padding)

/-- The width of a table whose columns have the given widths. -/
def tableWidth (widths : List Nat) : Nat := together (widths.map (· + padding)) + widths.length + 1

end ScopeAlgebra.Columns
