import FramedSerial.Text.Columns

/-!
# Tables drawn with box characters

A table has a head and rows of equally many cells. Each column is as wide as its widest cell,
measured in places rather than characters, and every cell stands at the left of its column
with one space on either side. Solid lines surround the table, a double line follows the head,
and broken lines separate rows and columns.

There is a greatest width. A cell beyond it is cut and goes on below itself, and a stretch of
a line between rows ends at it, even where that leaves out the spaces beside a cell.
-/

namespace FramedSerial

/-- A head and rows. -/
structure Table where
  head : List String
  rows : List (List String)

namespace Table

/-- The greatest width. -/
def maxWidth : Nat := 65535

/-- Cut characters into pieces of at most `room` places each. The piece begun before them is
given in reverse, with the places it takes. -/
def cutFrom (room used : Nat) (begun : List Char) : List Char → List String
  | [] => if begun.isEmpty then [] else [String.ofList begun.reverse]
  | c :: rest =>
    let width := Unicode.columns c
    if room < used + width && !begun.isEmpty then
      String.ofList begun.reverse :: cutFrom room width [c] rest
    else cutFrom room (used + width) (c :: begun) rest

/-- A cell as the lines it takes. -/
def cellLines (cell : String) : List String :=
  if columnsOf cell ≤ maxWidth then [cell] else cutFrom maxWidth 0 [] cell.toList

/-- The width a cell asks for. -/
def cellWidth (cell : String) : Nat := min (columnsOf cell) maxWidth

/-- The width of each column. -/
def widths (t : Table) : List Nat :=
  t.rows.foldl (fun ws row => List.zipWith (fun w cell => max w (cellWidth cell)) ws row)
    (t.head.map cellWidth)

/-- The length of a stretch across a column. -/
def span (width : Nat) : Nat := min (width + 2) maxWidth

/-- The same character so many times. -/
def stretch (c : Char) (n : Nat) : String := String.ofList (List.replicate n c)

/-- A line between rows: its left end, its fill, its crossing and its right end. -/
def rule (left : String) (fill : Char) (cross right : String) (ws : List Nat) : String :=
  left ++ String.intercalate cross (ws.map fun w => stretch fill (span w)) ++ right

/-- One line of a cell in its column, or the gap below a cell that has no further line. -/
def padded (width : Nat) : Option String → String
  | some text => " " ++ text ++ stretch ' ' (width - columnsOf text) ++ " "
  | none => stretch ' ' (span width)

/-- The lines of a row of cells. -/
def rowLines (ws : List Nat) (cells : List String) : List String :=
  let columns := cells.map cellLines
  let height := columns.foldl (fun n lines => max n lines.length) 0
  (List.range height).map fun i =>
    let parts := List.zipWith (fun w lines => padded w lines[i]?) ws columns
    "│" ++ String.intercalate "┆" parts ++ "│"

/-- The lines of a table, without a line feed after the last. -/
def render (t : Table) : String :=
  let ws := t.widths
  let body := (t.rows.map (rowLines ws)).intersperse [rule "├" '╌' "┼" "┤" ws]
  String.intercalate "\n" <|
    rule "┌" '─' "┬" "┐" ws :: rowLines ws t.head ++ [rule "╞" '═' "╪" "╡" ws]
      ++ body.flatten ++ [rule "└" '─' "┴" "┘" ws]

end Table

end FramedSerial
