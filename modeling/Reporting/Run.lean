import Reporting.Chart
import Reporting.Insight
import Reporting.Report
import Reporting.Time.Moment

/-!
# Runs

A run takes loaded rows through one view: the rows are filtered, made into a table, drawn as charts
and described by insights. Only the page of the table depends on the paging asked for.
-/

namespace Reporting

/-- What a run is asked for. -/
structure RunInput where
  viewId : Option String
  parameters : Keyed String
  filters : Option (List Filter)
  page : Option Int
  pageSize : Option Int

namespace RunInput

/-- A run without wishes. -/
def plain : RunInput := ⟨none, .empty, none, none, none⟩

/-- A number, if it is given and is not zero. -/
def nonzero (n : Option Int) : Option Int := n.filter (· ≠ 0)

/-- The page to show; pages count from one. -/
def pageNumber (input : RunInput) : Int := max 1 ((nonzero input.page).getD 1)

/-- The size of pages: that of the run, of the view or the default, the first that is not zero. -/
def pageLength (input : RunInput) (view : View) (default : Int) : Int :=
  max 1 (((nonzero input.pageSize).or (nonzero (some view.pageSize))).getD default)

end RunInput

/-- The result of a run. -/
structure RunResult where
  reportId : Option String
  reportTitle : String
  datasetIds : List String
  view : View
  appliedFilters : List Filter
  appliedParameters : Keyed String
  generatedAt : String
  table : Table
  charts : List Chart
  insights : Insights
  rawRows : List Row

/-- Runs a view over rows. The clock is read in the end. -/
def runView (defaultPageSize : Int) (clock : Outcome Moment) (rows : List Row) (view : View)
    (calculations : List Calculation) (input : RunInput) : Outcome RunResult := do
  let filters := view.appliedFilters input.filters input.parameters
  let filtered ← Filter.keep filters rows
  let (table, ordered) ←
    Table.build view calculations input.pageNumber (input.pageLength view defaultPageSize) filtered
  let charts ← Chart.buildAll view.visuals ordered
  let insights ← Insights.build table.columns ordered filtered
  let generatedAt ← (← clock).toIso
  return {
    reportId := none
    reportTitle := ""
    datasetIds := []
    view
    appliedFilters := filters
    appliedParameters := input.parameters
    generatedAt, table, charts, insights
    rawRows := filtered }

end Reporting
