import Reporting.Export
import Reporting.Server.Loading
import Reporting.Settings

/-!
# Server state

A server holds datasets with their sheets, fiscal calendars and saved reports, all in memory, and
reads a clock. Everything that a principal may not see is treated as absent.
-/

namespace Reporting

/-- What a server knows. -/
structure State where
  now : ClockReading
  /-- The number of report ids made so far. -/
  idsMade : Nat
  settings : Settings
  registry : Registry
  calendars : Keyed FiscalCalendar
  reports : Keyed Report

namespace State

/-- The calendars that every server has. -/
def builtinCalendars : Keyed FiscalCalendar :=
  (Keyed.empty.put "global_jan"
      ⟨"global_jan", "Global Fiscal Calendar (Jan-Dec)", 1, "Fiscal year starts January 1."⟩).put
    "org_default"
      ⟨"org_default", "Organisation Fiscal Calendar (Nov-Oct)", 11,
        "Fiscal year starts November 1."⟩

/-- A server at its start. -/
def start (now : ClockReading) : State :=
  ⟨now, 0, .standard, .empty, builtinCalendars, .empty⟩

/-- The text of the current moment. -/
def stamp (s : State) : Outcome String := do (← s.now.utc).toIso

/-! ## Datasets -/

/-- Adds or replaces a dataset, and its sheet if there is one. -/
def register (s : State) (d : Dataset) (sheet : Option Sheet) : State :=
  { s with registry := s.registry.register d sheet }

/-- Adds or replaces a fiscal calendar. -/
def addCalendar (s : State) (calendar : FiscalCalendar) : State :=
  { s with calendars := s.calendars.put calendar.id calendar }

/-- Asks for the rows of datasets for a principal. -/
def loadRows (s : State) (p : Principal) (ids : List String) (startMonth : Int) :
    Loading Failure (List Row) where
  loads := [⟨p, ids, startMonth⟩]
  outcome := s.registry.loadRows p ids startMonth s.now

/-! ## Reports -/

/-- Whether a principal may see a report: its owner and administrators may. -/
def sees (p : Principal) (r : Report) : Bool := p.isAdministrator || r.ownerId = p.id

/-- The report of an id. -/
def report (s : State) (id : String) : Outcome Report :=
  Outcome.ofOption (.reportNotFound id) (s.reports.get? id)

/-- The report of an id, if the principal may see it. -/
def reportFor (s : State) (p : Principal) (id : String) : Outcome Report := do
  let r ← s.report id
  if sees p r then return r else throw (.reportNotFound id)

/-- Whether a report has a text in its title or its description, in any case. -/
def mentions (query : List Char) (r : Report) : Bool :=
  query.isEmpty || Text.occursIn query (Text.lowerChars r.title.toList)
    || Text.occursIn query (Text.lowerChars r.description.toList)

/-- The text that a search looks for. -/
def searchText (search : Option String) : List Char :=
  Text.lowerChars (Text.trimChars (search.getD "").toList)

/-- The reports that a principal may see and that mention a search, the last updated first. -/
def listReports (s : State) (p : Principal) (search : Option String) : List Report :=
  let visible := s.reports.values.filter fun r => sees p r && mentions (searchText search) r
  visible.mergeSort fun a b => b.updatedAt ≤ a.updatedAt

/-- The id of the report made after so many others. -/
def generatedId (count : Nat) : String :=
  "report-" ++ String.ofList (Text.padded 16 12 count)

/-- The id that a save goes under: the one given, or else a new one, which counts as made. -/
def settleId (s : State) (given : Option String) : State × String :=
  match given with
  | some id => (s, id)
  | none => ({ s with idsMade := s.idsMade + 1 }, generatedId (s.idsMade + 1))

/-- Saves a definition, as a new report or over one that the principal may see, and answers with
the report. An overwritten report keeps its owner and the time of its first save. An id that was
made counts also where the clock then has no text. -/
def saveReport (s : State) (p : Principal) (title description : String) (definition : Definition)
    (id : Option String) : State × Outcome Report :=
  let given := id.filter (· ≠ "")
  let existing := given.bind s.reports.get?
  let (settled, reportId) := s.settleId given
  if existing.any fun r => !sees p r then (s, .error (.reportNotFound reportId))
  else
    match s.stamp with
    | .error failure => (settled, .error failure)
    | .ok stamp =>
      let saved : Report := {
        id := reportId, title, description, definition
        ownerId := (existing.map (·.ownerId)).getD p.id
        createdAt := (existing.map (·.createdAt)).getD stamp
        updatedAt := stamp }
      ({ settled with reports := settled.reports.put reportId saved }, .ok saved)

end State

end Reporting
