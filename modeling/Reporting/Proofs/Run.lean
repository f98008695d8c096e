import Reporting.Proofs.Outcome
import Reporting.Run

/-!
# A run before its page

A run filters its rows, makes a table of them, and draws and describes all rows of the table; the
page that the table shows comes last. `runWhole` is a run without a page, which reads no paging,
and `runView_eq_runWhole` says that a run is one turned to a page. `RunSteps` lists what the steps
of a successful run gave, and steps that all succeed make one (`yields_runView`).
-/

namespace Reporting

/-! ## Tables -/

/-- A table turned to a page of all its rows. -/
def Table.turned (table : Table) (ordered : List Row) (page pageSize : Int) : Table :=
  { table with rows := paginate ordered page pageSize, page, pageSize }

/-- A table without a page. -/
def Table.whole (view : View) (calculations : List Calculation) (ordered : List Row)
    (totals : Keyed Number) : Table where
  columns := columnsOf view (metricColumns view calculations) ordered
  rows := []
  totals := totals
  page := 0
  pageSize := 0
  totalRows := ordered.length

/-- A table is made whole and then turned to its page. -/
theorem Table.build_eq (view : View) (calculations : List Calculation) (page pageSize : Int)
    (rows : List Row) :
    Table.build view calculations page pageSize rows = do
      let ordered ← allRows view calculations rows
      let totals ← columnTotals ordered (metricColumns view calculations)
      return ((whole view calculations ordered totals).turned ordered page pageSize, ordered) := rfl

/-! ## Runs -/

/-- A result with its table turned to a page of all its rows. -/
def RunResult.turned (result : RunResult) (ordered : List Row) (page pageSize : Int) : RunResult :=
  { result with table := result.table.turned ordered page pageSize }

section Run

variable (defaultPageSize : Int) (clock : Outcome Moment) (rows : List Row) (view : View)
  (calculations : List Calculation) (input : RunInput)

/-- A run without a page, and all rows of its table. -/
def runWhole : Outcome (RunResult × List Row) := do
  let filters := view.appliedFilters input.filters input.parameters
  let kept ← Filter.keep filters rows
  let ordered ← Table.allRows view calculations kept
  let totals ← columnTotals ordered (Table.metricColumns view calculations)
  let table := Table.whole view calculations ordered totals
  let charts ← Chart.buildAll view.visuals ordered
  let insights ← Insights.build table.columns ordered kept
  let generatedAt ← (← clock).toIso
  return (
    { reportId := none
      reportTitle := ""
      datasetIds := []
      view
      appliedFilters := filters
      appliedParameters := input.parameters
      generatedAt, table, charts, insights
      rawRows := kept },
    ordered)

/-- **A run takes its course before it turns to a page.** -/
theorem runView_eq_runWhole :
    runView defaultPageSize clock rows view calculations input = do
      let (whole, ordered) ← runWhole clock rows view calculations input
      return whole.turned ordered input.pageNumber (input.pageLength view defaultPageSize) := by
  simp only [runView, runWhole, Table.build_eq, bind_assoc, pure_bind]
  rfl

/-- What the steps of a successful run gave. -/
structure RunSteps (whole : RunResult) (ordered : List Row) : Prop where
  kept : Filter.keep (view.appliedFilters input.filters input.parameters) rows = .ok whole.rawRows
  sorted : Table.allRows view calculations whole.rawRows = .ok ordered
  totals : columnTotals ordered (Table.metricColumns view calculations) = .ok whole.table.totals
  table : whole.table = Table.whole view calculations ordered whole.table.totals
  charts : Chart.buildAll view.visuals ordered = .ok whole.charts
  insights : Insights.build whole.table.columns ordered whole.rawRows = .ok whole.insights
  generatedAt : clock >>= Moment.toIso = .ok whole.generatedAt

variable {clock rows view calculations input}

theorem runWhole_inv {whole : RunResult} {ordered : List Row}
    (h : runWhole clock rows view calculations input = .ok (whole, ordered)) :
    RunSteps clock rows view calculations input whole ordered := by
  obtain ⟨kept, hkept, h⟩ := Outcome.bind_eq_ok.1 h
  obtain ⟨all, hall, h⟩ := Outcome.bind_eq_ok.1 h
  obtain ⟨totals, htotals, h⟩ := Outcome.bind_eq_ok.1 h
  obtain ⟨charts, hcharts, h⟩ := Outcome.bind_eq_ok.1 h
  obtain ⟨insights, hinsights, h⟩ := Outcome.bind_eq_ok.1 h
  obtain ⟨moment, hmoment, h⟩ := Outcome.bind_eq_ok.1 h
  obtain ⟨generatedAt, hgenerated, h⟩ := Outcome.bind_eq_ok.1 h
  obtain ⟨rfl, rfl⟩ := Prod.mk.inj (Outcome.pure_eq_ok.1 h)
  exact ⟨hkept, hall, htotals, rfl, hcharts, hinsights, by rw [hmoment]; exact hgenerated⟩

/-- A successful run and its steps. -/
theorem runView_inv {result : RunResult}
    (h : runView defaultPageSize clock rows view calculations input = .ok result) :
    ∃ whole ordered, RunSteps clock rows view calculations input whole ordered ∧
      result =
        whole.turned ordered input.pageNumber (input.pageLength view defaultPageSize) := by
  rw [runView_eq_runWhole] at h
  obtain ⟨⟨whole, ordered⟩, hwhole, h⟩ := Outcome.bind_eq_ok.1 h
  exact ⟨whole, ordered, runWhole_inv hwhole, (Outcome.pure_eq_ok.1 h).symm⟩

/-- A run whose steps all succeed is successful. -/
theorem yields_runView {kept ordered : List Row}
    (hkept : Filter.keep (view.appliedFilters input.filters input.parameters) rows = .ok kept)
    (hordered : Table.allRows view calculations kept = .ok ordered)
    (htotals : (columnTotals ordered (Table.metricColumns view calculations)).Yields fun _ => True)
    (hcharts : (Chart.buildAll view.visuals ordered).Yields fun _ => True)
    (hinsights : ∀ columns, (Insights.build columns ordered kept).Yields fun _ => True)
    (hclock : (clock >>= Moment.toIso).Yields fun _ => True) :
    (runView defaultPageSize clock rows view calculations input).Yields (·.rawRows = kept) := by
  obtain ⟨text, hclock, -⟩ := hclock
  obtain ⟨moment, rfl, htext⟩ := Outcome.bind_eq_ok.1 hclock
  have hstamp : moment.toIso.Yields fun _ => True := ⟨text, htext, trivial⟩
  rw [runView_eq_runWhole, runWhole, hkept, Outcome.ok_bind, hordered, Outcome.ok_bind]
  simp only [bind_assoc]
  refine htotals.bind fun totals _ => hcharts.bind fun charts _ => ?_
  exact (hinsights _).bind fun insights _ => hstamp.bind fun _ _ => Outcome.yields_pure rfl

end Run

end Reporting
