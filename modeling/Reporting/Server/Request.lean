import Reporting.Server.Refusal
import Reporting.Server.ReportRun
import Reporting.Upload
import Reporting.Wire.Dataset
import Reporting.Wire.Run

/-!
# Requests

The requests that a server answers over headers: listing datasets, uploads, and saving, showing,
running and exporting reports. A request names its principal in two headers, and is refused with
a status and a wording, or breaks off with a failure. Those that run reports are steps that load
rows, and keep the log of what they asked for.
-/

namespace Reporting

/-- Why a step has no answer. -/
inductive Fault
  | failure (f : Failure)
  | refusal (r : Refusal)
  deriving DecidableEq, Repr

/-- The answer of a request, or why there is none. -/
abbrev Response (α : Type) := Except Fault α

namespace Response

/-- A failure that breaks a request off. -/
def ofOutcome {α : Type} : Outcome α → Response α
  | .ok a => .ok a
  | .error failure => .error (.failure failure)

/-- A failure that the answer names. -/
def named {α : Type} : Outcome α → Response α
  | .ok a => .ok a
  | .error failure => .error (.refusal (.failed failure))

/-- The answer of a refused request. -/
def refuse {α : Type} (refusal : Refusal) : Response α := .error (.refusal refusal)

end Response

/-! ## Headers -/

/-- The headers of a request. -/
abbrev Headers := List (String × String)

/-- The first header of a name, in any case. -/
def Headers.get? (headers : Headers) (name : String) : Option String :=
  (headers.find? fun header => header.1.map Char.toLower = name.map Char.toLower).map Prod.snd

/-- The principal that a request names. -/
def Headers.principal (headers : Headers) : Response Principal :=
  match (headers.get? "X-User-Id").filter (· ≠ "") with
  | none => Response.refuse (.missingHeader "X-User-Id")
  | some id =>
    match (headers.get? "X-Role-Type").filter (· ≠ "") with
    | none => Response.refuse (.missingHeader "X-Role-Type")
    | some role => .ok ⟨id, headers.get? "X-User-Email", Text.upper (Text.trim role)⟩

namespace State

/-! ## Datasets -/

/-- A dataset and what its sheet holds. -/
def summary (s : State) (d : Dataset) : Outcome DatasetSummary := do
  match s.registry.sheets.get? d.id with
  | some sheet => return ⟨d, some (sheet.size, ← sheet.fields)⟩
  | none => return ⟨d, none⟩

/-- The datasets that the principal has access to. -/
def apiDatasets (s : State) (headers : Headers) (required : Access) :
    Response (List DatasetSummary) := do
  let p ← headers.principal
  Response.ofOutcome ((s.registry.accessible p required).mapM s.summary)

/-- An uploaded file and how it is to be registered. -/
structure UploadRequest where
  filename : Option String
  csv : String
  datasetId : Option String
  datasetName : Option String
  fiscalDateField : Option String
  deriving DecidableEq, Repr

/-- A text with something in it. -/
def filled (s : Option String) : Option String := s.filter (· ≠ "")

/-- A file name without its last extension. -/
def baseName (filename : String) : String :=
  let fromEnd := filename.toList.reverse
  match fromEnd.dropWhile (· ≠ '.') with
  | [] => filename
  | _ :: base => String.ofList base.reverse

/-- The dataset that an upload makes. -/
def uploadedDataset (upload : UploadRequest) (stamp : String) : Dataset :=
  let filename := (filled upload.filename).getD "dataset.csv"
  { id := Text.trim ((filled upload.datasetId).getD (baseName filename))
    name := (filled upload.datasetName).getD (baseName filename)
    description := "Uploaded from " ++ filename
    primaryKeys := []
    permissions := []
    fiscalDateField := upload.fiscalDateField
    updatedAt := stamp }

/-- The sheet of an upload, if it may be registered. -/
def acceptUpload (s : State) (headers : Headers) (upload : UploadRequest) : Response Sheet := do
  let p ← headers.principal
  if p.role ≠ "ADMIN" then Response.refuse .notAdministrator
  else
    match Upload.parse? upload.csv with
    | none => Response.refuse .unreadableCsv
    | some sheet =>
      if s.settings.uploadMaxRows < sheet.size then
        Response.refuse (.tooManyRows sheet.size s.settings.uploadMaxRows)
      else
        match filled upload.fiscalDateField with
        | some field =>
          if sheet.names.contains field then return sheet
          else Response.refuse (.columnNotFound field)
        | none => return sheet

/-- Registers an upload and answers with its summary. The dataset stays registered also where the
summary fails. -/
def apiUpload (s : State) (headers : Headers) (upload : UploadRequest) :
    State × Response DatasetSummary :=
  match s.acceptUpload headers upload with
  | .error fault => (s, .error fault)
  | .ok sheet =>
    match s.stamp with
    | .error failure => (s, .error (.failure failure))
    | .ok stamp =>
      let d := uploadedDataset upload stamp
      let next := s.register d (some sheet)
      (next, Response.ofOutcome (next.summary d.opened))

/-! ## Runs -/

/-- The ids of the datasets that a principal may view. -/
def viewableIds (s : State) (p : Principal) : List String :=
  (s.registry.accessible p .view).map (·.id)

/-- Runs a report over what its principal may view. -/
def execute (s : State) (p : Principal) (r : Report) (input : RunInput) :
    Loading Fault RunResult :=
  (s.runReport p r (s.viewableIds p) input).mapError fun failure => .refusal (.ofRun failure)

/-- The id of reports that are run without being saved. -/
def previewId : String := "preview"

/-- The report that a preview runs. -/
def previewReport (p : Principal) (stamp : String) (request : PreviewRequest) : Report where
  id := previewId
  title := request.title
  description := ""
  definition := request.definition
  ownerId := p.id
  createdAt := stamp
  updatedAt := stamp

/-- Runs a definition that is not saved. -/
def apiPreview (s : State) (headers : Headers) (request : PreviewRequest) :
    Loading Fault RunResult := do
  let p ← headers.principal
  let stamp ← Response.ofOutcome s.stamp
  s.execute p (previewReport p stamp request) request.input

/-- Runs a saved report. -/
def apiRun (s : State) (headers : Headers) (id : String) (input : Option RunInput) :
    Loading Fault RunResult := do
  let p ← headers.principal
  let r ← Response.named (s.reportFor p id)
  s.execute p r (input.getD .plain)

/-- An exported file: its text and its name. -/
structure ExportFile where
  text : String
  filename : String
  deriving DecidableEq, Repr

/-- Whether a header can carry a text: its characters have a single byte. -/
def isSendable (s : String) : Bool := s.toList.all (·.toNat < 256)

/-- The name of the file of an export. -/
def exportName (r : Report) (mode : String) : String := r.id ++ "-" ++ mode ++ ".csv"

/-- The result of a report as a file. -/
def deliver (mode : String) (r : Report) (result : RunResult) : Response ExportFile := do
  let text ← Response.ofOutcome (result.exportText (.ofName mode))
  if isSendable (exportName r mode) then return ⟨text, exportName r mode⟩
  else .error (.failure .unsendableName)

/-- Runs a saved report and exports the result in a mode. -/
def apiExport (s : State) (headers : Headers) (id : String) (input : Option RunInput)
    (mode : String) : Loading Fault ExportFile := do
  let p ← headers.principal
  let r ← Response.named (s.reportFor p id)
  let result ← s.execute p r (input.getD .plain)
  deliver mode r result

/-! ## Reports -/

/-- The reports that the principal may see. -/
def apiReports (s : State) (headers : Headers) (search : Option String) :
    Response (List Report) := do
  let p ← headers.principal
  return s.listReports p search

/-- A saved report. -/
def apiGet (s : State) (headers : Headers) (id : String) : Response Report := do
  let p ← headers.principal
  Response.named (s.reportFor p id)

/-- The datasets of a definition that a principal may not build on. -/
def missingBuildAccess (s : State) (p : Principal) (d : Definition) : List String :=
  let buildable := (s.registry.accessible p .build).map (·.id)
  d.datasetIds.filter fun id => !buildable.contains id

/-- The principal of a request to save, if it may build on all datasets of the definition. -/
def acceptSave (s : State) (headers : Headers) (request : SaveRequest) : Response Principal := do
  let p ← headers.principal
  let missing := s.missingBuildAccess p request.definition
  if missing.isEmpty then return p else Response.refuse (.noBuildAccess missing)

/-- Saves a report whose principal may build on all its datasets, and answers with the report. -/
def apiCreate (s : State) (headers : Headers) (request : SaveRequest) : State × Response Report :=
  match s.acceptSave headers request with
  | .error fault => (s, .error fault)
  | .ok p =>
    let (next, outcome) :=
      s.saveReport p request.title request.description request.definition request.id
    match outcome with
    | .ok report => (next, .ok report)
    | .error failure =>
      (next, if failure.message?.isSome then Response.refuse (.failed failure)
        else .error (.failure failure))

/-! ## Home -/

/-- The summary of a report in the feed. -/
structure FeedEntry where
  reportId : String
  reportTitle : String
  summary : String
  generatedAt : String
  deriving DecidableEq, Repr

/-- What a principal sees first. -/
structure Home where
  datasets : List Dataset
  recent : List Report
  shared : List Report
  feed : List FeedEntry

/-- The number of recent reports. -/
def recentCount : Nat := 8

/-- The number of reports in the feed. -/
def feedCount : Nat := 3

/-- The summary of a report whose run failed. -/
def noInsight : String := "No insight available for current filters."

/-- The feed entry of a report: the summary of a plain run, or a word in its place. -/
def feedEntry (s : State) (p : Principal) (r : Report) : Loading Failure FeedEntry := do
  match ← (s.runReport p r (s.viewableIds p) .plain).attempt with
  | .ok result => return ⟨r.id, r.title, result.insights.summary, result.generatedAt⟩
  | .error _ => return ⟨r.id, r.title, noInsight, ← s.stamp⟩

/-- The datasets, the recent reports, those of others and the feed. -/
def apiHome (s : State) (headers : Headers) (search : Option String) : Loading Fault Home := do
  let p ← headers.principal
  let reports := s.listReports p search
  let recent := reports.take recentCount
  let feed ← ((recent.take feedCount).mapM (s.feedEntry p)).mapError .failure
  return {
    datasets := s.registry.accessible p .view
    recent
    shared := reports.filter fun r => r.ownerId ≠ p.id
    feed }

end State

end Reporting
