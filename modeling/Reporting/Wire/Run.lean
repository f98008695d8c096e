import Reporting.Run
import Reporting.Wire.Report

/-!
# Runs on the wire

The wire objects of run inputs and of run results with their tables, charts and insights.
-/

namespace Reporting

/-- The name of a kind of insights. -/
def InsightKind.name : InsightKind → String
  | .trend => "trend"
  | .driver => "driver"
  | .anomaly => "anomaly"
  | .forecast => "forecast"
  | .quality => "quality"

/-- The kinds of insights. -/
def InsightKind.all : List InsightKind := [.trend, .driver, .anomaly, .forecast, .quality]

/-- A request to run a definition without saving it. -/
structure PreviewRequest where
  title : String
  definition : Definition
  input : RunInput

namespace Wire

/-! ## Reading -/

/-- A run input; all of it may be absent. -/
def runInput : Reader RunInput := fun value => do
  let fields ← entries value
  return {
    viewId := ← optional ["viewId", "view_id"] (nullable text) none fields
    parameters := ← optional ["parameters"] (table text) .empty fields
    filters := ← optional ["filters"] (nullable (list filter)) none fields
    page := ← optional ["page"] (nullable integer) none fields
    pageSize := ← optional ["pageSize", "page_size"] (nullable integer) none fields }

/-- A table; without fields of its own it is an empty first page. -/
def tableResult : Reader Table := fun value => do
  let fields ← entries value
  return {
    columns := ← optional ["columns"] (list text) [] fields
    rows := ← optional ["rows"] (list row) [] fields
    totals := ← optional ["totals"] (table number) .empty fields
    page := ← optional ["page"] integer 1 fields
    pageSize := ← optional ["pageSize", "page_size"] integer 25 fields
    totalRows := ← optional ["totalRows", "total_rows"] integer 0 fields }

/-- A chart. -/
def chart : Reader Chart := fun value => do
  let fields ← entries value
  return {
    visualId := ← required ["visualId", "visual_id"] text fields
    title := ← required ["title"] text fields
    kind := ← required ["type"] visualKind fields
    points := ← optional ["data"] (list row) [] fields }

/-- An insight. -/
def insight : Reader Insight := fun value => do
  let fields ← entries value
  return {
    kind := ← required ["type"] (choice InsightKind.name InsightKind.all) fields
    title := ← required ["title"] text fields
    detail := ← required ["detail"] text fields }

/-- Insights and their summary. -/
def insights : Reader Insights := fun value => do
  let fields ← entries value
  return {
    bullets := ← optional ["bullets"] (list insight) [] fields
    summary := ← optional ["executiveSummary", "executive_summary"] text "" fields }

/-- The result of a run. -/
def runResult : Reader RunResult := fun value => do
  let fields ← entries value
  return {
    reportId := ← optional ["reportId", "report_id"] (nullable text) none fields
    reportTitle := ← optional ["reportTitle", "report_title"] text "" fields
    datasetIds := ← optional ["datasetIds", "dataset_ids"] (list text) [] fields
    view := ← required ["view"] Wire.view fields
    appliedFilters := ← optional ["appliedFilters", "applied_filters"] (list filter) [] fields
    appliedParameters := ← optional ["appliedParameters", "applied_parameters"] (table text) .empty
      fields
    generatedAt := ← required ["generatedAt", "generated_at"] text fields
    table := ← required ["table"] tableResult fields
    charts := ← optional ["charts"] (list chart) [] fields
    insights := ← optional ["insights"] Wire.insights ⟨[], ""⟩ fields
    rawRows := ← optional ["rawRows", "raw_rows"] (list row) [] fields }

/-- A request for a preview; without a run input it is a plain run. -/
def previewRequest : Reader PreviewRequest := fun value => do
  let fields ← entries value
  return {
    title := ← required ["title"] text fields
    definition := ← required ["definition"] Wire.definition fields
    input := ← optional ["runInput", "run_input"] runInput .plain fields }

/-! ## Writing -/

/-- The object of a run input. -/
def ofRunInput (i : RunInput) : Value :=
  .object [("viewId", ofText? i.viewId), ("parameters", ofTable Value.text i.parameters),
    ("filters", i.filters.elim .null fun filters => .list (filters.map ofFilter)),
    ("page", i.page.elim .null Value.int), ("pageSize", i.pageSize.elim .null Value.int)]

/-- The object of a table. -/
def ofTableResult (t : Table) : Value :=
  .object [("columns", ofTexts t.columns), ("rows", ofRows t.rows),
    ("totals", ofTable Value.number t.totals), ("page", .int t.page),
    ("pageSize", .int t.pageSize), ("totalRows", .int t.totalRows)]

/-- The object of a chart. -/
def ofChart (c : Chart) : Value :=
  .object [("visualId", .text c.visualId), ("title", .text c.title), ("type", .text c.kind.name),
    ("data", ofRows c.points)]

/-- The object of an insight. -/
def ofInsight (i : Insight) : Value :=
  .object [("type", .text i.kind.name), ("title", .text i.title), ("detail", .text i.detail)]

/-- The object of insights. -/
def ofInsights (i : Insights) : Value :=
  .object [("bullets", .list (i.bullets.map ofInsight)), ("executiveSummary", .text i.summary)]

/-- The object of a result. -/
def ofRunResult (r : RunResult) : Value :=
  .object [("reportId", ofText? r.reportId), ("reportTitle", .text r.reportTitle),
    ("datasetIds", ofTexts r.datasetIds), ("view", ofView r.view),
    ("appliedFilters", .list (r.appliedFilters.map ofFilter)),
    ("appliedParameters", ofTable Value.text r.appliedParameters),
    ("generatedAt", .text r.generatedAt), ("table", ofTableResult r.table),
    ("charts", .list (r.charts.map ofChart)), ("insights", ofInsights r.insights),
    ("rawRows", ofRows r.rawRows)]

/-- The object of a request for a preview. -/
def ofPreviewRequest (r : PreviewRequest) : Value :=
  .object [("title", .text r.title), ("definition", ofDefinition r.definition),
    ("runInput", ofRunInput r.input)]

end Wire

end Reporting
