import RowCheck.Cell
import RowCheck.ColumnType

/-!
# Results and their canonical text

A result is a list of columns and a list of rows. Its canonical text has one line a row, with
`label=value` for every value that has a column.
-/

namespace RowCheck

/-- A column of a result. -/
structure Column where
  label : String
  type : ColumnType
  deriving DecidableEq, Repr

/-- What a query returns. Rows and columns keep the order in which the backend reports them. -/
structure Results where
  columns : List Column
  rows : List (List Cell)
  deriving Inhabited

namespace Results

/-- A result without columns and rows. -/
def empty : Results := ⟨[], []⟩

def rowCount (r : Results) : Nat := r.rows.length

/-- The text of one value under its column. -/
def pairChars (column : Column) (cell : Cell) : List Char :=
  column.label.toList ++ '=' :: cell.chars

/-- The values of a row, separated by semicolons; those without a column are left out. -/
def rowChars (columns : List Column) (row : List Cell) : List Char :=
  [';', ' '].intercalate (columns.zipWith pairChars row)

/-- The canonical text, one line a row. -/
def canonicalChars (r : Results) : List Char :=
  r.rows.flatMap fun row => rowChars r.columns row ++ ['\n']

/-- The canonical text, one line a row. -/
def canonical (r : Results) : String := String.ofList r.canonicalChars

end Results

end RowCheck
