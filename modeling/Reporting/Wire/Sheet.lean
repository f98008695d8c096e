import Reporting.Dataset.Sheet
import Reporting.Time.CellDate
import Reporting.Wire.Reader

/-!
# Sheets on the wire

A sheet is an object of columns, each with the name of its kind and its cells. Kinds of numbers
have two names, of which the capitalised one allows missing cells.
-/

namespace Reporting.Wire

/-- A number as a double. -/
def double : Reader Double
  | .number (.double x) => some x
  | .number (.int n) => Double.ofInt? n
  | _ => none

/-- The moment that a cell tells. -/
def moment : Reader Moment
  | .text s => (CellDate.dateTime? s).map DateTime.moment
  | _ => none

/-- The column of a kind. -/
def columnOf (kind : String) (cells : Value) : Option Column :=
  match kind with
  | "int64" | "Int64" => (list (nullable integer) cells).map .integers
  | "float64" | "Float64" => (list (nullable double) cells).map .doubles
  | "bool" | "boolean" => (list (nullable truth) cells).map .flags
  | "string" => (list (nullable text) cells).map .texts
  | "datetime" => (list (nullable moment) cells).map .moments
  | "object" => (list anything cells).map .mixed
  | _ => none

/-- A column: the name of its kind and its cells. -/
def column : Reader Column := fun value => do
  let fields ← entries value
  columnOf (← required ["dtype"] text fields) (← lookup ["values"] fields)

/-- A sheet: an object of columns. -/
def sheet : Reader Sheet := fun value => do
  let fields ← entries value
  return ⟨← fields.mapM fun entry => do return (entry.1, ← column entry.2)⟩

end Reporting.Wire
