import Reporting.Server.Request

/-!
# Sessions

A session is a sequence of steps on a server: changes of its clock and its stores, questions to
them, and requests over headers. Each step leads to a state and has an answer or a fault; a faulty
step does not end the session.
-/

namespace Reporting

/-- A step of a session. -/
inductive Step
  | setNow (now : ClockReading)
  | uploadLimit (rows : Int)
  | addCalendar (calendar : FiscalCalendar)
  | register (dataset : Dataset) (sheet : Option Sheet)
  | permits (dataset : Dataset) (principal : Principal) (required : Access)
  | listDatasets (principal : Principal) (required : Access)
  | loadRows (principal : Principal) (ids : List String) (startMonth : Int)
  | saveReport (principal : Principal) (request : SaveRequest)
  | getReport (id : String)
  | getReportFor (principal : Principal) (id : String)
  | listReports (principal : Principal) (search : Option String)
  /-- Runs a report over datasets given by their ids, or over those that the principal may view. -/
  | runReport (principal : Principal) (id : String) (input : RunInput)
      (allowed : Option (List String))
  | apiUpload (headers : Headers) (upload : State.UploadRequest)
  | apiDatasets (headers : Headers) (required : Access)
  | apiPreview (headers : Headers) (request : PreviewRequest)
  | apiReports (headers : Headers) (search : Option String)
  | apiHome (headers : Headers) (search : Option String)
  | apiCreate (headers : Headers) (request : SaveRequest)
  | apiGet (headers : Headers) (id : String)
  | apiRun (headers : Headers) (id : String) (input : Option RunInput)
  | apiExport (headers : Headers) (id : String) (input : Option RunInput) (mode : String)

/-- The answer to a step. -/
inductive Reply
  | done
  | calendar (calendar : FiscalCalendar)
  | dataset (dataset : Dataset)
  | truth (b : Bool)
  | ids (ids : List String)
  | rows (rows : List Row)
  | report (report : Report)
  | run (loads : List LoadRequest) (result : RunResult)
  | result (result : RunResult)
  | uploaded (summary : DatasetSummary)
  | summaries (summaries : List DatasetSummary)
  | reports (reports : List Report)
  | home (home : State.Home)
  | created (report : Report)
  | file (file : State.ExportFile)

namespace State

/-- A step that asks and changes nothing. -/
def ask {α : Type} (s : State) (reply : α → Reply) (answer : Response α) :
    State × Response Reply :=
  (s, answer.map reply)

/-- A step that may lead to another state. -/
def change {α : Type} (reply : α → Reply) (next : State × Response α) : State × Response Reply :=
  (next.1, next.2.map reply)

/-- Runs a saved report, over the datasets that are allowed or over those that the principal may
view. -/
def runSaved (s : State) (p : Principal) (id : String) (input : RunInput)
    (allowed : Option (List String)) : Loading Failure RunResult := do
  let r ← s.report id
  s.runReport p r (allowed.getD (s.viewableIds p)) input

/-- Where a step leads, and its answer. -/
def step (s : State) : Step → State × Response Reply
  | .setNow now => ({ s with now }, .ok .done)
  | .uploadLimit rows =>
    ({ s with settings := { s.settings with uploadMaxRows := rows } }, .ok .done)
  | .addCalendar calendar => (s.addCalendar calendar, .ok (.calendar calendar))
  | .register dataset sheet => (s.register dataset sheet, .ok (.dataset dataset.opened))
  | .permits dataset principal required =>
    s.ask .truth (.ok (dataset.permits principal required))
  | .listDatasets principal required =>
    s.ask .ids (.ok ((s.registry.accessible principal required).map (·.id)))
  | .loadRows principal ids startMonth =>
    s.ask .rows (Response.ofOutcome (s.loadRows principal ids startMonth).outcome)
  | .saveReport principal request =>
    let (next, saved) :=
      s.saveReport principal request.title request.description request.definition request.id
    change .report (next, Response.ofOutcome saved)
  | .getReport id => s.ask .report (Response.ofOutcome (s.report id))
  | .getReportFor principal id => s.ask .report (Response.ofOutcome (s.reportFor principal id))
  | .listReports principal search =>
    s.ask .ids (.ok ((s.listReports principal search).map (·.id)))
  | .runReport principal id input allowed =>
    let run := s.runSaved principal id input allowed
    s.ask (.run run.loads) (Response.ofOutcome run.outcome)
  | .apiUpload headers upload => change .uploaded (s.apiUpload headers upload)
  | .apiDatasets headers required => s.ask .summaries (s.apiDatasets headers required)
  | .apiPreview headers request => s.ask .result (s.apiPreview headers request).outcome
  | .apiReports headers search => s.ask .reports (s.apiReports headers search)
  | .apiHome headers search => s.ask .home (s.apiHome headers search).outcome
  | .apiCreate headers request => change .created (s.apiCreate headers request)
  | .apiGet headers id => s.ask .report (s.apiGet headers id)
  | .apiRun headers id input => s.ask .result (s.apiRun headers id input).outcome
  | .apiExport headers id input mode => s.ask .file (s.apiExport headers id input mode).outcome

/-- Where a sequence of steps leads, and the answers on the way. -/
def session (s : State) : List Step → State × List (Response Reply)
  | [] => (s, [])
  | next :: rest =>
    let (reached, answer) := s.step next
    let (final, answers) := reached.session rest
    (final, answer :: answers)

end State

end Reporting
