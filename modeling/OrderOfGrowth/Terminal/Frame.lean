import OrderOfGrowth.Terminal.Lines

/-!
# Frames and trees

Blocks of lines are drawn with line characters: panels as wide as the terminal, boxes as wide
as what is in them, and trees with branches on the left.
-/

namespace OrderOfGrowth.Terminal

/-- A horizontal line. -/
def rule (width : Nat) : List Char := List.replicate width '─'

/-- A line between the sides of a frame. -/
def framed (line : List Char) : List Char := '│' :: line ++ ['│']

/-- The upper edge of a frame that is `width` wide inside. -/
def upperEdge (width : Nat) : List Char := '╭' :: rule width ++ ['╮']

/-- The upper edge of a frame that is `width` wide inside, with a title in its middle, of which only
the start is there if it is too long. -/
def titledEdge (width : Nat) (title : String) : List Char :=
  if width ≤ 2 then upperEdge width
  else
    let body := takeWidth (width - 2) (' ' :: title.toList ++ [' '])
    let left := (width - body.length) / 2
    '╭' :: rule left ++ body ++ rule (width - body.length - left) ++ ['╮']

/-- The lower edge of a frame that is `width` wide inside. -/
def lowerEdge (width : Nat) : List Char := '╰' :: rule width ++ ['╯']

/-- How many places a line of a panel has: on either side there are an edge and two spaces. -/
def panelWidth (columns : Nat) : Nat := columns - 6

/-- A line with two spaces on either side. -/
def indented (line : List Char) : List Char := ' ' :: ' ' :: line ++ [' ', ' ']

/-- A panel over the whole width of the terminal, with an empty line above and below the
content. -/
def panel (columns : Nat) (title : String) (content : List (List Char)) : List (List Char) :=
  let lines := [] :: content ++ [[]]
  titledEdge (columns - 2) title ::
    lines.map (fun line => framed (indented (padRight (panelWidth columns) line))) ++
    [lowerEdge (columns - 2)]

/-- The width of a box around lines, which is not wider than the terminal. -/
def boxWidth (columns : Nat) (content : List (List Char)) : Nat := min columns (widest content + 6)

/-- A box of a given width around lines. -/
def box (width : Nat) (content : List (List Char)) : List (List Char) :=
  upperEdge (width - 2) ::
    (content.flatMap (justify false (width - 6))).map (fun line => framed (indented line)) ++
    [lowerEdge (width - 2)]

/-- Two blocks of lines next to each other with a space between them, the left one filled up
with empty lines. -/
def beside (left right : List (List Char)) : List (List Char) :=
  let width := widest left
  let height := max left.length right.length
  let fill (lines : List (List Char)) := lines ++ List.replicate (height - lines.length) []
  List.zipWith (fun a b => padRight width a ++ ' ' :: b) (fill left) (fill right)

/-- Two boxes next to each other, or below each other and equally wide if there is no room. -/
def boxes (columns : Nat) (left right : List (List Char)) : List (List Char) :=
  let leftWidth := boxWidth columns left
  let rightWidth := boxWidth columns right
  if leftWidth + 1 + rightWidth ≤ columns then beside (box leftWidth left) (box rightWidth right)
  else box (max leftWidth rightWidth) left ++ box (max leftWidth rightWidth) right

/-- A label with branches below it. -/
inductive Tree where
  | node (label : List Char) (branches : List Tree)

namespace Tree

/-- A label without branches. -/
def leaf (label : List Char) : Tree := .node label []

/-- Lines behind a mark: `first` before the first line and `others` before all others. -/
def hang (first others : String) : List (List Char) → List (List Char)
  | [] => []
  | line :: rest => (first.toList ++ line) :: rest.map (others.toList ++ ·)

mutual

/-- The lines of a tree. -/
def lines (width : Nat) : Tree → List (List Char)
  | .node label branches => wrap width label ++ branchLines width branches

/-- The lines of branches; the line on the left ends at the last one. -/
def branchLines (width : Nat) : List Tree → List (List Char)
  | [] => []
  | [last] => hang "└── " "    " (lines (width - 4) last)
  | branch :: rest => hang "├── " "│   " (lines (width - 4) branch) ++ branchLines width rest

end

end Tree

end OrderOfGrowth.Terminal
