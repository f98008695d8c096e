import Reporting.Calculation
import Reporting.Grouping

/-!
# Tables

The table of a view: rows are grouped, calculated fields are added, the rows are sorted, and one
page of them is shown. Totals are taken over all rows, so they do not depend on the page. Pages
count from one, and a page before the first shows the first.
-/

namespace Reporting

/-- The position after the last item of a slice that is to end at `stop`; a negative one counts
from the end. -/
def sliceEnd (length : Nat) (stop : Int) : Nat :=
  if stop < 0 then (stop + length).toNat else stop.toNat

/-- The items of a page. -/
def paginate {α : Type} (items : List α) (page size : Int) : List α :=
  let start := ((page - 1) * size).toNat
  (items.take (sliceEnd items.length (start + size))).drop start

/-- One page of a table, with the columns, the totals and the number of all its rows. -/
structure Table where
  columns : List String
  rows : List Row
  totals : Keyed Number
  page : Int
  pageSize : Int
  totalRows : Int

namespace Table

/-- The columns that hold amounts: measure labels and then calculated fields, each once. -/
def metricColumns (view : View) (calculations : List Calculation) : List String :=
  firsts ((view.measures.map (·.label) ++ calculations.map (·.output)).filter (· ≠ ""))

/-- The columns of a table: those of its first row, or else the ones its view announces. -/
def columnsOf (view : View) (metrics : List String) (rows : List Row) : List String :=
  match rows with
  | first :: _ => first.keys
  | [] => firsts (view.dimensions ++ metrics)

/-- All rows of a view's table, in order. -/
def allRows (view : View) (calculations : List Calculation) (rows : List Row) :
    Outcome (List Row) := do
  SortRule.sortRows view.sort (← Calculation.applyAll calculations (← groupRows view rows))

/-- A page of a view's table, and all its rows. -/
def build (view : View) (calculations : List Calculation) (page pageSize : Int)
    (rows : List Row) : Outcome (Table × List Row) := do
  let ordered ← allRows view calculations rows
  let metrics := metricColumns view calculations
  let totals ← columnTotals ordered metrics
  return (
    { columns := columnsOf view metrics ordered
      rows := paginate ordered page pageSize
      totals, page, pageSize
      totalRows := ordered.length },
    ordered)

end Table

end Reporting
