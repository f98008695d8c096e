import Reporting.Grouping
import Reporting.Wire.Reader

/-!
# Views on the wire

The wire objects of filters, sort rules, measures, visuals and views. Fields have a name in camel
case and one in snake case; the dimensions of a view have a short name as well.
-/

namespace Reporting

/-! ## Names -/

/-- The name of a direction. -/
def Direction.name : Direction → String
  | .ascending => "asc"
  | .descending => "desc"

/-- The directions. -/
def Direction.all : List Direction := [.ascending, .descending]

/-- The name of a format. -/
def MeasureFormat.name : MeasureFormat → String
  | .number => "number"
  | .currency => "currency"
  | .percent => "percent"

/-- The formats. -/
def MeasureFormat.all : List MeasureFormat := [.number, .currency, .percent]

/-- The name of a kind of visuals. -/
def VisualKind.name : VisualKind → String
  | .table => "table"
  | .line => "line"
  | .bar => "bar"
  | .stackedBar => "stacked_bar"
  | .area => "area"
  | .scatter => "scatter"
  | .donut => "donut"
  | .pie => "pie"
  | .kpi => "kpi"
  | .heatmap => "heatmap"

/-- The kinds of visuals. -/
def VisualKind.all : List VisualKind :=
  [.table, .line, .bar, .stackedBar, .area, .scatter, .donut, .pie, .kpi, .heatmap]

/-- The kind of visuals with a name. -/
def VisualKind.ofName? (name : String) : Option VisualKind :=
  VisualKind.all.find? fun kind => kind.name = name

namespace Wire

/-- A direction, by its name. -/
def direction : Reader Direction := choice Direction.name Direction.all

/-- A kind of visuals, by its name. -/
def visualKind : Reader VisualKind := choice VisualKind.name VisualKind.all

/-! ## Reading -/

/-- A filter; without an operator it asks for equality. -/
def filter : Reader Filter := fun value => do
  let fields ← entries value
  return {
    field := ← required ["field"] text fields
    operator := ← optional ["operator"] text Filter.defaultOperator fields
    value := ← optional ["value"] anything .null fields }

/-- A sort rule; without a direction it sorts upward. -/
def sortRule : Reader SortRule := fun value => do
  let fields ← entries value
  return {
    field := ← required ["field"] text fields
    direction := ← optional ["direction"] Wire.direction .ascending fields }

/-- A measure; without an aggregation it is a sum. -/
def measure : Reader Measure := fun value => do
  let fields ← entries value
  return {
    field := ← required ["field"] text fields
    label := ← required ["label"] text fields
    aggregation := ← optional ["aggregation"] text Aggregation.defaultName fields
    format := ← optional ["format"] (nullable (choice MeasureFormat.name MeasureFormat.all)) none
      fields }

/-- A visual; without a type it is a table. -/
def visual : Reader Visual := fun value => do
  let fields ← entries value
  return {
    id := ← required ["id"] text fields
    title := ← optional ["title"] text "" fields
    kind := ← optional ["type"] visualKind .table fields
    xField := ← optional ["xField", "x_field"] (nullable text) none fields
    yField := ← optional ["yField", "y_field"] (nullable text) none fields
    seriesField := ← optional ["seriesField", "series_field"] (nullable text) none fields
    metricField := ← optional ["metricField", "metric_field"] (nullable text) none fields
    sortBy := ← optional ["sortBy", "sort_by"] (nullable text) none fields
    sortDirection := ← optional ["sortDirection", "sort_direction"] (nullable Wire.direction) none
      fields }

/-- A view; its pages have 25 rows unless it says otherwise. -/
def view : Reader View := fun value => do
  let fields ← entries value
  return {
    id := ← required ["id"] text fields
    name := ← optional ["name"] text "" fields
    rowFields := ← optional ["rowFields", "rows", "row_fields"] (list text) [] fields
    columnFields := ← optional ["columnFields", "columns", "column_fields"] (list text) [] fields
    measures := ← optional ["values"] (list measure) [] fields
    filters := ← optional ["filters"] (list filter) [] fields
    sort := ← optional ["sort"] (list sortRule) [] fields
    pageSize := ← optional ["pageSize", "page_size"] integer 25 fields
    showTotals := ← optional ["showTotals", "show_totals"] truth true fields
    pivotMode := ← optional ["pivotMode", "pivot_mode"] truth true fields
    visuals := ← optional ["visuals"] (list visual) [] fields }

/-! ## Writing -/

/-- The object of a filter. -/
def ofFilter (f : Filter) : Value :=
  .object [("field", .text f.field), ("operator", .text f.operator), ("value", f.value)]

/-- The object of a sort rule. -/
def ofSortRule (rule : SortRule) : Value :=
  .object [("field", .text rule.field), ("direction", .text rule.direction.name)]

/-- The object of a measure. -/
def ofMeasure (m : Measure) : Value :=
  .object [("field", .text m.field), ("label", .text m.label),
    ("aggregation", .text m.aggregation), ("format", ofText? (m.format.map MeasureFormat.name))]

/-- The object of a visual. -/
def ofVisual (v : Visual) : Value :=
  .object [("id", .text v.id), ("title", .text v.title), ("type", .text v.kind.name),
    ("xField", ofText? v.xField), ("yField", ofText? v.yField),
    ("seriesField", ofText? v.seriesField), ("metricField", ofText? v.metricField),
    ("sortBy", ofText? v.sortBy),
    ("sortDirection", ofText? (v.sortDirection.map Direction.name))]

/-- The object of a view. -/
def ofView (v : View) : Value :=
  .object [("id", .text v.id), ("name", .text v.name), ("rowFields", ofTexts v.rowFields),
    ("columnFields", ofTexts v.columnFields), ("values", .list (v.measures.map ofMeasure)),
    ("filters", .list (v.filters.map ofFilter)), ("sort", .list (v.sort.map ofSortRule)),
    ("pageSize", .int v.pageSize), ("showTotals", .bool v.showTotals),
    ("pivotMode", .bool v.pivotMode), ("visuals", .list (v.visuals.map ofVisual))]

end Wire

end Reporting
