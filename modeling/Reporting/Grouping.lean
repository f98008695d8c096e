import Reporting.Distinct
import Reporting.Value.Projection
import Reporting.View

/-!
# Grouping

Rows with the same dimension texts form a group, and groups are listed by first appearance. Each
measure of a group aggregates the numeric projection of its field over the members, in their order.
-/

namespace Reporting

/-! ## Aggregation -/

/-- The known aggregations; a name that is not known means the sum. -/
inductive Aggregation
  | sum
  | average
  | minimum
  | maximum
  | count
  | distinctCount
  deriving DecidableEq, Repr

namespace Aggregation

/-- The aggregation with a name. -/
def ofName : String → Aggregation
  | "avg" => .average
  | "min" => .minimum
  | "max" => .maximum
  | "count" => .count
  | "distinct_count" => .distinctCount
  | _ => .sum

/-- The aggregation of a measure that names none. -/
def defaultName : String := "sum"

/-- The aggregate of numbers. Without numbers it is zero. -/
def apply (numbers : List Number) : Aggregation → Outcome Number
  | .count => .ok (.int numbers.length)
  | .average =>
    if numbers.isEmpty then .ok (.int 0)
    else do
      return .double (← (← Number.sum numbers).div (.int numbers.length))
  | .minimum =>
    match numbers with
    | [] => .ok (.int 0)
    | first :: rest => .ok (Number.least first rest)
  | .maximum =>
    match numbers with
    | [] => .ok (.int 0)
    | first :: rest => .ok (Number.greatest first rest)
  | .distinctCount => .ok (.int (Number.distinct numbers).length)
  | .sum => Number.sum numbers

end Aggregation

/-! ## Groups -/

namespace Grouping

/-- Parts the dimension texts of a group's key. -/
def separator : Char := Char.ofNat 0x1F

/-- The text of a dimension in a row. -/
def dimensionText (row : Row) (field : String) : Outcome String := do
  (← (row.cell field).normalize).toText

/-- The key of a row's group: its dimension texts, parted by separators. -/
def key (dimensions : List String) (row : Row) : Outcome String := do
  let texts ← dimensions.mapM (dimensionText row)
  return String.ofList (Text.joined [separator] (texts.map String.toList))

/-- The members under each key, keys by first appearance. -/
def groups {α : Type} (keyed : List (String × α)) : List (List α) :=
  (firsts (keyed.map Prod.fst)).map fun key =>
    (keyed.filter fun entry => entry.1 = key).map Prod.snd

/-- A row of dimension cells, those of a group's first member. -/
def dimensionCells (dimensions : List String) (first : Row) : Outcome Row :=
  dimensions.foldlM (fun row field => do return row.put field (← (first.cell field).normalize))
    .empty

/-- The value of a measure over the members of a group. -/
def measureValue (members : List Row) (measure : Measure) : Outcome Number := do
  let numbers ← members.mapM fun row => (row.cell measure.field).toNumber
  return (← (Aggregation.ofName measure.aggregation).apply numbers).integral

/-- Writes the measures of a group over its dimension cells. -/
def addMeasures (members : List Row) (measures : List Measure) (row : Row) : Outcome Row :=
  measures.foldlM
    (fun current measure => do
      return current.put measure.label (.number (← measureValue members measure)))
    row

/-- The table row of a group. -/
def groupRow (view : View) (members : List Row) : Outcome Row := do
  addMeasures members view.measures (← dimensionCells view.dimensions (members.headD .empty))

end Grouping

/-- One row for each group, in order of first appearance. -/
def groupRows (view : View) (rows : List Row) : Outcome (List Row) := do
  let keys ← rows.mapM (Grouping.key view.dimensions)
  (Grouping.groups (keys.zip rows)).mapM (Grouping.groupRow view)

/-! ## Totals -/

/-- The total of a column, over the numeric projection of its cells. -/
def columnTotal (rows : List Row) (column : String) : Outcome Number := do
  return (← Number.sum (← rows.mapM fun row => (row.cell column).toNumber)).integral

/-- The totals of columns, by name. -/
def columnTotals (rows : List Row) (columns : List String) : Outcome (Keyed Number) :=
  columns.foldlM (fun totals column => do return totals.put column (← columnTotal rows column))
    .empty

end Reporting
