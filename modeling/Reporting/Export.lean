import Reporting.Csv
import Reporting.Run

/-!
# Exports

A finished run is exported as CSV: its raw rows, the page of its table, or the points of its charts,
each point with the id and the title of its visual in front.
-/

namespace Reporting

/-- What an export holds. -/
inductive ExportMode
  | raw
  | aggregated
  | chart
  deriving DecidableEq, Repr

/-- The mode with a name; a name that is not known means the raw rows. -/
def ExportMode.ofName : String → ExportMode
  | "aggregated" => .aggregated
  | "chart" => .chart
  | _ => .raw

namespace RunResult

/-- A chart point behind the id and the title of its visual. -/
def chartRow (chart : Chart) (point : Row) : Row :=
  point.entries.foldl (fun row entry => row.put entry.1 entry.2)
    ((Keyed.empty.put "visual_id" (.text chart.visualId)).put "visual_title" (.text chart.title))

/-- The points of all charts. -/
def chartRows (result : RunResult) : List Row :=
  result.charts.flatMap fun chart => chart.points.map (chartRow chart)

/-- The CSV text of a run in a mode. -/
def exportText (result : RunResult) : ExportMode → Outcome String
  | .raw => Csv.ofRows (Csv.columnsOf result.rawRows) result.rawRows
  | .aggregated => Csv.ofRows result.table.columns result.table.rows
  | .chart => Csv.ofRows (Csv.columnsOf result.chartRows) result.chartRows

end RunResult

end Reporting
