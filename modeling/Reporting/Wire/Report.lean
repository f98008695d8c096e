import Reporting.Report
import Reporting.Wire.Calculation
import Reporting.Wire.View

/-!
# Reports on the wire

The wire objects of report definitions, saved reports and fiscal calendars, and of the requests
that save a report. A saved report without times of its own carries the stamp of the moment.
-/

namespace Reporting

/-- The name of a kind of parameters. -/
def ParameterKind.name : ParameterKind → String
  | .date => "date"
  | .dateRange => "daterange"
  | .fiscalYear => "fiscal_year"
  | .string => "string"
  | .select => "select"

/-- The kinds of parameters. -/
def ParameterKind.all : List ParameterKind :=
  [.date, .dateRange, .fiscalYear, .string, .select]

/-- A request to save a definition, as a new report or under an id. -/
structure SaveRequest where
  id : Option String
  title : String
  description : String
  definition : Definition

namespace Wire

/-! ## Reading -/

/-- A parameter; without a type it is a text. -/
def parameter : Reader Parameter := fun value => do
  let fields ← entries value
  return {
    id := ← required ["id"] text fields
    label := ← optional ["label"] text "" fields
    kind := ← optional ["type"] (choice ParameterKind.name ParameterKind.all) .string fields
    required := ← optional ["required"] truth false fields
    defaultValue := ← optional ["defaultValue", "default_value"] (nullable text) none fields
    options := ← optional ["options"] (nullable (list text)) none fields }

/-- A format of amounts, of up to six decimals. -/
def formatting : Reader Formatting := fun value => do
  let fields ← entries value
  return {
    currency := ← optional ["currency"] (nullable text) none fields
    decimals := ← optional ["decimals"] (nullable (integerWithin 0 6)) none fields }

/-- A report definition; without a calendar it goes by that of the organisation. -/
def definition : Reader Definition := fun value => do
  let fields ← entries value
  return {
    name := ← required ["name"] text fields
    description := ← optional ["description"] text "" fields
    datasetIds := ← optional ["datasetIds", "dataset_ids"] (list text) [] fields
    fiscalCalendarId := ← optional ["fiscalCalendarId", "fiscal_calendar_id"] text "org_default"
      fields
    views := ← optional ["views"] (list view) [] fields
    calculations := ← optional ["calculations"] (list calculation) [] fields
    parameters := ← optional ["parameters"] (list parameter) [] fields
    formatting := ← optional ["formatting"] (nullable Wire.formatting) none fields }

/-- A saved report. -/
def report (stamp : String) : Reader Report := fun value => do
  let fields ← entries value
  return {
    id := ← required ["id"] text fields
    title := ← required ["title"] text fields
    description := ← optional ["description"] text "" fields
    definition := ← required ["definition"] Wire.definition fields
    ownerId := ← optional ["ownerId", "owner_id"] text "" fields
    createdAt := ← optional ["createdAt", "created_at"] text stamp fields
    updatedAt := ← optional ["updatedAt", "updated_at"] text stamp fields }

/-- A fiscal calendar; without a month its years start in November. -/
def fiscalCalendar : Reader FiscalCalendar := fun value => do
  let fields ← entries value
  return {
    id := ← required ["id"] text fields
    name := ← optional ["name"] text "" fields
    startMonth := ← optional ["fiscalYearStartMonth", "fiscal_year_start_month"]
      (integerWithin 1 12) 11 fields
    description := ← optional ["description"] text "" fields }

/-- A request to save a definition. -/
def saveRequest : Reader SaveRequest := fun value => do
  let fields ← entries value
  return {
    id := ← optional ["id"] (nullable text) none fields
    title := ← required ["title"] text fields
    description := ← optional ["description"] text "" fields
    definition := ← required ["definition"] Wire.definition fields }

/-! ## Writing -/

/-- The object of a parameter. -/
def ofParameter (p : Parameter) : Value :=
  .object [("id", .text p.id), ("label", .text p.label), ("type", .text p.kind.name),
    ("required", .bool p.required), ("defaultValue", ofText? p.defaultValue),
    ("options", p.options.elim .null ofTexts)]

/-- The object of a format of amounts. -/
def ofFormatting (f : Formatting) : Value :=
  .object [("currency", ofText? f.currency), ("decimals", f.decimals.elim .null Value.int)]

/-- The object of a report definition. -/
def ofDefinition (d : Definition) : Value :=
  .object [("name", .text d.name), ("description", .text d.description),
    ("datasetIds", ofTexts d.datasetIds), ("fiscalCalendarId", .text d.fiscalCalendarId),
    ("views", .list (d.views.map ofView)),
    ("calculations", .list (d.calculations.map ofCalculation)),
    ("parameters", .list (d.parameters.map ofParameter)),
    ("formatting", d.formatting.elim .null ofFormatting)]

/-- The object of a saved report. -/
def ofReport (r : Report) : Value :=
  .object [("id", .text r.id), ("title", .text r.title), ("description", .text r.description),
    ("definition", ofDefinition r.definition), ("ownerId", .text r.ownerId),
    ("createdAt", .text r.createdAt), ("updatedAt", .text r.updatedAt)]

/-- The object of a fiscal calendar. -/
def ofFiscalCalendar (c : FiscalCalendar) : Value :=
  .object [("id", .text c.id), ("name", .text c.name),
    ("fiscalYearStartMonth", .int c.startMonth), ("description", .text c.description)]

/-- The object of a request to save. -/
def ofSaveRequest (r : SaveRequest) : Value :=
  .object [("id", ofText? r.id), ("title", .text r.title), ("description", .text r.description),
    ("definition", ofDefinition r.definition)]

end Wire

end Reporting
