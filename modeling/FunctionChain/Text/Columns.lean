import FunctionChain.Text.Utf8

/-!
# Aligned columns

A text whose lines are cells between tabs is laid out in columns. Cells above and below one another form
a column as far as every line has that cell and a further one; a column is as wide as its widest cell and
the gap. The last cell of a line belongs to no column. A form feed ends a line and every column.
-/

namespace FunctionChain

namespace Columns

/-- The blanks between a column's widest cell and the next column. -/
def gap : Nat := 2

/-- Whether a line has a further cell after its first. -/
def hasColumn : List Bytes → Bool
  | _ :: _ :: _ => true
  | _ => false

/-- A cell with blanks up to a width in characters. -/
def padded (width : Nat) (cell : Bytes) : Bytes :=
  cell ++ List.replicate (width - Utf8.length cell) (byte ' ')

/-- The width of the column that the first cells of some lines form. -/
def widthOf (lines : List (List Bytes)) : Nat :=
  lines.foldl (fun width line => max width (Utf8.length (line.headD []) + gap)) 0

/-- Lay out lines of at most so many columns. -/
def layOut : Nat → List (List Bytes) → List Bytes
  | 0, lines => lines.map List.flatten
  | columns + 1, lines =>
    (lines.splitBy fun a b => hasColumn a == hasColumn b).flatMap fun block =>
      if block.all hasColumn then
        let width := widthOf block
        List.zipWith (fun line rest => padded width (line.headD []) ++ rest) block
          (layOut columns (block.map List.tail))
      else block.map List.flatten

/-- The cells of a line. -/
def cells (line : Bytes) : List Bytes :=
  Bytes.splitOn (line.map fun b => if b == 11 then 9 else b) 9

/-- The lines of a section, laid out. -/
def sectionLines (text : Bytes) : List Bytes :=
  let lines := (Bytes.splitOn text 10).map cells
  layOut (lines.foldl (fun n line => max n line.length) 0) lines

/-- The text with its cells in columns. -/
def aligned (text : Bytes) : Bytes :=
  Bytes.joined [10] ((Bytes.splitOn text 12).flatMap sectionLines)

end Columns

end FunctionChain
