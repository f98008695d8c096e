import Reporting.Server.State

/-!
# Report runs

A run of a report first settles which datasets it may read, which view it shows and when fiscal
years start (`planRun`). Only then does it load rows and take them through the view (`runPlan`).
-/

namespace Reporting.State

/-- What a run is to ask for, and the view that it shows. -/
def planRun (s : State) (p : Principal) (r : Report) (allowed : List String) (input : RunInput) :
    Outcome (LoadRequest × View) := do
  let ids := r.definition.permittedIds allowed
  if ids.isEmpty then throw .noDatasets
  else
    let view ← r.definition.view input.viewId
    let startMonth :=
      Definition.startMonth s.calendars s.settings.fiscalStartMonth r.definition.fiscalCalendarId
    return (⟨p, ids, startMonth⟩, view)

/-- Loads the rows of a request and takes them through a view. -/
def runPlan (s : State) (r : Report) (request : LoadRequest) (view : View) (input : RunInput) :
    Loading Failure RunResult := do
  let rows ← s.loadRows request.principal request.datasetIds request.startMonth
  let result ← runView s.settings.pageSize s.now.utc rows view r.definition.calculations input
  return { result with
    reportId := some r.id
    reportTitle := r.title
    datasetIds := request.datasetIds }

/-- Runs a report over the datasets that are allowed. -/
def runReport (s : State) (p : Principal) (r : Report) (allowed : List String) (input : RunInput) :
    Loading Failure RunResult := do
  let (request, view) ← s.planRun p r allowed input
  s.runPlan r request view input

end Reporting.State
