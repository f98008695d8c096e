import Reporting.Chart.Slices
import Reporting.View

/-!
# Charts

A chart holds the points of a visual: one for each row of the whole table, with the fields that the
visual binds, or one for each category of a pie or a donut.
-/

namespace Reporting

/-- The points of a visual. -/
structure Chart where
  visualId : String
  title : String
  kind : VisualKind
  points : List Row

namespace Chart

/-- A field that is bound to something: a missing or empty name binds nothing. -/
def bound (field : Option String) : Option String := field.filter (· ≠ "")

/-- Adds the cell of a bound field to a point. -/
def addCell (row : Row) (field : Option String) (point : Row) : Row :=
  match bound field with
  | some name => point.put name (row.cell name)
  | none => point

/-- Adds the number of a bound field to a point. -/
def addNumber (row : Row) (field : Option String) (point : Row) : Outcome Row :=
  match bound field with
  | some name => do return point.put name (.number (← (row.cell name).toNumber))
  | none => .ok point

/-- The point of a row: the x and series fields as they are, the y and metric fields as numbers. -/
def point (visual : Visual) (row : Row) : Outcome Row := do
  let withY ← addNumber row visual.yField (addCell row visual.xField .empty)
  addNumber row visual.metricField (addCell row visual.seriesField withY)

/-- The kinds whose points are collapsed by category. -/
def isSliced : VisualKind → Bool
  | .pie | .donut => true
  | _ => false

/-- The chart of a visual over the rows of a table. -/
def build (rows : List Row) (visual : Visual) : Outcome Chart := do
  let points ← rows.mapM (point visual)
  return {
    visualId := visual.id
    title := visual.title
    kind := visual.kind
    points :=
      ← if isSliced visual.kind then
          Slices.collapse (visual.xField.getD "") (visual.yField.getD "") points
        else .ok points }

/-- The charts of visuals, in order. -/
def buildAll (visuals : List Visual) (rows : List Row) : Outcome (List Chart) :=
  visuals.mapM (build rows)

/-- The charts of a kind; without one, all of them. -/
def select (requested : Option VisualKind) (charts : List Chart) : List Chart :=
  match requested with
  | some kind => charts.filter (·.kind = kind)
  | none => charts

end Chart

end Reporting
