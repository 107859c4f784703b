import QueryBlocks.Text.Width

/-!
# Tables

Rows of cells between lines with round corners, the first row as a heading. A cell has as
many lines as its text; a column is as wide as its widest line.
-/

set_option autoImplicit false

namespace QueryBlocks

abbrev Cell := List (List Char)

abbrev Row := List Cell

def Cell.ofText (text : String) : Cell := text.toList.splitOn '\n'

def Cell.width (cell : Cell) : Nat := (cell.map Text.width).foldl max 0

namespace Row

def height (row : Row) : Nat := (row.map List.length).foldl max 0

def widths (row : Row) : List Nat := row.map Cell.width

def padded (width : Nat) (line : List Char) : List Char :=
  ' ' :: line ++ List.replicate (width - Text.width line) ' ' ++ [' ']

def line (widths : List Nat) (row : Row) (index : Nat) : List Char :=
  let parts := List.zipWith (fun width cell => padded width (cell.getD index [])) widths row
  '│' :: ['│'].intercalate parts ++ ['│']

def lines (widths : List Nat) (row : Row) : List (List Char) :=
  (List.range row.height).map (row.line widths)

end Row

namespace Table

def columnWidths (rows : List Row) : List Nat :=
  match rows with
  | [] => []
  | first :: rest => rest.foldl (fun widths row => List.zipWith max widths row.widths) first.widths

def rule (left middle right : Char) (widths : List Nat) : List Char :=
  left :: [middle].intercalate (widths.map fun width => List.replicate (width + 2) '─') ++ [right]

def lines (rows : List Row) : List (List Char) :=
  match rows with
  | [] => []
  | heading :: rest =>
    let widths := columnWidths rows
    [rule '╭' '┬' '╮' widths] ++ heading.lines widths ++ [rule '├' '┼' '┤' widths] ++
      rest.flatMap (Row.lines widths) ++
      if rest.isEmpty then [] else [rule '╰' '┴' '╯' widths]

def render (rows : List (List String)) : String :=
  String.ofList (['\n'].intercalate (lines (rows.map (·.map Cell.ofText))))

end Table

end QueryBlocks
