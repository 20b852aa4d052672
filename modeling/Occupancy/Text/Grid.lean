/-! Grids of cells drawn with lines. All cells of a column are as wide as the longest, their texts stand at the left
with one blank at either side, and a line runs above and below every row. -/

namespace Occupancy.Text.Grid

/-- The width of each column. -/
def widths (columns : Nat) (rows : List (List String)) : List Nat :=
  rows.foldl (fun ws cells => ws.zipWith max (cells.map String.length)) (List.replicate columns 0)

def fill (c : Char) (n : Nat) : String := String.ofList (List.replicate n c)

/-- The line between rows. -/
def rule (ws : List Nat) : String := "+" ++ String.join (ws.map fun w => fill '-' (w + 2) ++ "+")

def cellText (width : Nat) (cell : String) : String := " " ++ cell ++ fill ' ' (width - cell.length) ++ " |"

def rowText (ws : List Nat) (cells : List String) : String := "|" ++ String.join (ws.zipWith cellText cells)

/-- The lines of a grid from top to bottom. -/
def lines (header : List String) (rows : List (List String)) : List String :=
  let ws := widths header.length (header :: rows)
  rule ws :: (header :: rows).flatMap fun cells => [rowText ws cells, rule ws]

def text (header : List String) (rows : List (List String)) : String := "\n".intercalate (lines header rows)

end Occupancy.Text.Grid
