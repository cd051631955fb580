import OrderOfGrowth.Number.Rounding
import OrderOfGrowth.Terminal.Frame

/-!
# Tables

A table has a line below its header. A column is as wide as its widest cell needs, unless the
table would be wider than the terminal: then the widest columns give way first. A cell whose
text does not fit is broken into lines, and a row is as high as its highest cell.
-/

namespace OrderOfGrowth.Terminal

/-- A table. All its columns have their text on the same side. -/
structure Table where
  title : List Char
  headers : List (List Char)
  alignRight : Bool
  rows : List (List (List Char))

namespace Table

/-- Whether a character ends a line when cells are measured. -/
def isLineEnd (c : Char) : Bool :=
  Text.inRanges [(0x0A, 0x0D), (0x1C, 0x1E), (0x85, 0x85), (0x2028, 0x2029)] c.toNat

/-- The width of the widest line of a cell; `line` is the start of its first line. -/
def cellWidth (line : List Char) : List Char → Nat
  | [] => width line
  | c :: rest =>
    if isLineEnd c then max (width line) (cellWidth [] rest) else cellWidth (line ++ [c]) rest

/-- The cells of each column, its header first. -/
def columns (table : Table) : List (List (List Char)) :=
  table.headers.zipIdx.map fun (header, index) => header :: table.rows.filterMap (·[index]?)

/-- The width of a column with a space on either side of its cells, if it may have `limit`
places. -/
def columnWidth (limit : Nat) (cells : List (List Char)) : Nat :=
  if limit < 3 then limit
  else min limit (cells.foldl (fun most cell => max most (cellWidth [] cell)) 0 + 2)

/-- How many places widths take together. -/
def total : List Nat → Nat
  | [] => 0
  | width :: rest => width + total rest

/-- The widths after `excess` places have been taken from the chosen ones, in equal parts as far
as each may lose them; `count` is the number of chosen widths. -/
def takeFrom (chosen : Nat → Bool) (most : Nat → Nat) : Nat → Nat → List Nat → List Nat
  | _, _, [] => []
  | excess, count, width :: rest =>
    if chosen width then
      let part := min (most width) (roundQuotient excess count)
      (width - part) :: takeFrom chosen most (excess - part) (count - 1) rest
    else width :: takeFrom chosen most excess count rest

/-- Widths with a sum of at most `limit`, where the widest columns give way until they are as
wide as the next ones. `count` bounds the number of rounds, of which each takes something. -/
def giveWay (limit : Nat) : Nat → List Nat → List Nat
  | 0, widths => widths
  | count + 1, widths =>
    let excess := total widths - limit
    if excess = 0 then widths
    else
      let top := widths.foldl max 0
      let next := (widths.filter (· != top)).foldl max 0
      giveWay limit count
        (takeFrom (· == top) (fun _ => min excess (top - next)) excess (widths.count top) widths)

/-- Widths with a sum of at most `limit`, for columns that need more. -/
def squeeze (limit : Nat) (widths : List Nat) : List Nat :=
  let squeezed := giveWay limit (total widths - limit) widths
  takeFrom (· != 0) id (total squeezed - limit) (squeezed.countP (· != 0)) squeezed

/-- The widths of the columns on a terminal with lines of `places` places. -/
def widths (places : Nat) (table : Table) : List Nat :=
  let limit := places - (table.headers.length + 1)
  let needed := table.columns.map fun cells => max 1 (columnWidth limit cells)
  if total needed ≤ limit then needed
  else List.zipWith columnWidth (squeeze limit needed) table.columns

/-- A horizontal line across all columns. -/
def crossLine (widths : List Nat) (left middle right : Char) : List Char :=
  left :: Text.joinWith [middle] (widths.map rule) ++ [right]

/-- The lines of a cell, with a space on either side if there is room for more. -/
def cellLines (alignRight : Bool) (width : Nat) (cell : List Char) : List (List Char) :=
  if width < 3 then []
  else (justify alignRight (width - 2) cell).map fun line => ' ' :: line ++ [' ']

/-- The lines of a row. Cells that are not as high as the row have empty lines below, or above
in the header. -/
def rowLines (table : Table) (widths : List Nat) (isHeader : Bool) (cells : List (List Char)) :
    List (List Char) :=
  let blocks := List.zipWith (cellLines table.alignRight) widths cells
  let height := blocks.foldl (fun most block => max most block.length) 1
  let filled := List.zipWith
    (fun width block =>
      let gap := List.replicate (height - block.length) (List.replicate width ' ')
      if isHeader then gap ++ block else block ++ gap)
    widths blocks
  (List.range height).map fun index =>
    framed (Text.joinWith ['│'] (filled.map (·.getD index [])))

/-- The lines of a table under its title on a terminal with lines of `places` places. -/
def lines (places : Nat) (table : Table) : List (List Char) :=
  let widths := table.widths places
  let width := total widths + widths.length + 1
  let all := (wrap width table.title).map (centre width) ++
    [crossLine widths '╭' '┬' '╮'] ++ table.rowLines widths true table.headers ++
    [crossLine widths '├' '┼' '┤'] ++ table.rows.flatMap (table.rowLines widths false) ++
    [crossLine widths '╰' '┴' '╯']
  all.map (takeWidth places)

end Table

end OrderOfGrowth.Terminal
