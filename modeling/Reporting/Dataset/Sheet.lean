import Reporting.Time.Moment
import Reporting.Value

/-!
# Sheets

The table of a dataset is kept by columns, each of one kind of cells. For a run it is read as rows
(`Sheet.records`), in which cells that are missing or not finite are null and moments are text.
-/

namespace Reporting

/-- A column: its kind and its cells, some of which may be missing. -/
inductive Column
  | integers (cells : List (Option Int))
  | doubles (cells : List (Option Double))
  | flags (cells : List (Option Bool))
  | texts (cells : List (Option String))
  | moments (cells : List (Option Moment))
  /-- Cells of any kind. -/
  | mixed (cells : List Value)

namespace Column

/-- The number of cells. -/
def size : Column → Nat
  | .integers cells => cells.length
  | .doubles cells => cells.length
  | .flags cells => cells.length
  | .texts cells => cells.length
  | .moments cells => cells.length
  | .mixed cells => cells.length

/-- The name of a kind of columns in a listing. Cells of any kind are listed as text. -/
def kindName : Column → String
  | .integers _ => "integer"
  | .doubles _ => "float"
  | .flags _ => "boolean"
  | .texts _ => "string"
  | .moments _ => "datetime"
  | .mixed _ => "string"

/-- The cells, one by one. -/
def values : Column → List Value
  | .integers cells => cells.map fun cell => cell.elim .null Value.int
  | .doubles cells => cells.map fun cell => cell.elim .null Value.double
  | .flags cells => cells.map fun cell => cell.elim .null Value.bool
  | .texts cells => cells.map fun cell => cell.elim .null Value.text
  | .moments cells => cells.map fun cell => cell.elim .null fun m => .text m.zonelessText
  | .mixed cells => cells

/-- A cell of a row: doubles that are not finite are null. -/
def finiteCell : Value → Value
  | .number (.double x) => if x.isFinite then .double x else .null
  | value => value

/-- The cells as they appear in rows. -/
def cells (column : Column) : List Value := column.values.map finiteCell

end Column

/-- A table by columns, in order. Headers of an upload may coincide once they are trimmed. -/
structure Sheet where
  columns : List (String × Column)

namespace Sheet

/-- The number of rows. -/
def size (sheet : Sheet) : Nat :=
  match sheet.columns with
  | [] => 0
  | (_, column) :: _ => column.size

/-- The names of the columns. -/
def names (sheet : Sheet) : List String := sheet.columns.map Prod.fst

/-- The column of a name, if it is the only one. -/
def column? (sheet : Sheet) (name : String) : Option Column :=
  match sheet.columns.filter (·.1 = name) with
  | [(_, column)] => some column
  | _ => none

/-- The first rows of columns of cells. -/
def rowsOf : Nat → List (String × List Value) → List Row
  | 0, _ => []
  | n + 1, columns =>
    Keyed.ofList (columns.map fun column => (column.1, column.2.headD .null))
      :: rowsOf n (columns.map fun column => (column.1, column.2.tail))

/-- The rows of a sheet. -/
def records (sheet : Sheet) : List Row :=
  rowsOf sheet.size (sheet.columns.map fun column => (column.1, column.2.cells))

/-- The columns with the names of their kinds; names that coincide are ambiguous. -/
def fields (sheet : Sheet) : Outcome (List (String × String)) :=
  if sheet.names.Nodup then
    .ok (sheet.columns.map fun column => (column.1, column.2.kindName))
  else .error .ambiguousColumn

end Sheet

end Reporting
