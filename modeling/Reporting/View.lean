import Reporting.Filter
import Reporting.Sort

/-!
# Views

A view says how rows become a table: the dimensions that rows are grouped by, the measures of each
group, the filters before and the sort rules after, the page size, and the visuals drawn from the
whole table.
-/

namespace Reporting

/-- How the values of a measure are meant to be shown. -/
inductive MeasureFormat
  | number
  | currency
  | percent
  deriving DecidableEq, Repr

/-- A measure: a field aggregated under a label. The aggregation is kept by name. -/
structure Measure where
  field : String
  label : String
  aggregation : String
  format : Option MeasureFormat
  deriving DecidableEq, Repr

/-- The kinds of visuals. -/
inductive VisualKind
  | table
  | line
  | bar
  | stackedBar
  | area
  | scatter
  | donut
  | pie
  | kpi
  | heatmap
  deriving DecidableEq, Repr

/-- A visual: the fields of the table that a chart is drawn from. -/
structure Visual where
  id : String
  title : String
  kind : VisualKind
  xField : Option String
  yField : Option String
  seriesField : Option String
  metricField : Option String
  sortBy : Option String
  sortDirection : Option Direction
  deriving DecidableEq, Repr

/-- How rows become a table and charts. -/
structure View where
  id : String
  name : String
  rowFields : List String
  columnFields : List String
  measures : List Measure
  filters : List Filter
  sort : List SortRule
  pageSize : Int
  showTotals : Bool
  pivotMode : Bool
  visuals : List Visual

namespace View

/-- The dimensions: row fields before column fields. -/
def dimensions (view : View) : List String := view.rowFields ++ view.columnFields

/-- The filters of a view followed by those of a run, with placeholders replaced. -/
def appliedFilters (view : View) (runtime : Option (List Filter)) (parameters : Keyed String) :
    List Filter :=
  (view.filters ++ runtime.getD []).map (Filter.resolve parameters)

end View

end Reporting
