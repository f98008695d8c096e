import Reporting.Calculation
import Reporting.Distinct
import Reporting.View

/-!
# Reports

A report definition names datasets, a fiscal calendar, views and calculations. A saved report is a
definition with an owner and the times of its first and last save.
-/

namespace Reporting

/-- The kinds of parameters. -/
inductive ParameterKind
  | date
  | dateRange
  | fiscalYear
  | string
  | select
  deriving DecidableEq, Repr

/-- A parameter that a run may be given. -/
structure Parameter where
  id : String
  label : String
  kind : ParameterKind
  required : Bool
  defaultValue : Option String
  options : Option (List String)
  deriving DecidableEq, Repr

/-- How amounts are meant to be shown. -/
structure Formatting where
  currency : Option String
  decimals : Option Int
  deriving DecidableEq, Repr

/-- What a report is made from. -/
structure Definition where
  name : String
  description : String
  datasetIds : List String
  fiscalCalendarId : String
  views : List View
  calculations : List Calculation
  parameters : List Parameter
  formatting : Option Formatting

/-- A saved report. -/
structure Report where
  id : String
  title : String
  description : String
  definition : Definition
  ownerId : String
  createdAt : String
  updatedAt : String

/-- A fiscal calendar: the month that its years start in. -/
structure FiscalCalendar where
  id : String
  name : String
  startMonth : Int
  description : String
  deriving DecidableEq, Repr

namespace Definition

/-- The view with an id, or else the first. -/
def view (d : Definition) (id : Option String) : Outcome View :=
  match d.views with
  | [] => .error .noViews
  | first :: _ =>
    match id.filter (· ≠ "") with
    | some wanted => .ok ((d.views.find? (·.id = wanted)).getD first)
    | none => .ok first

/-- The datasets of a definition that are among the allowed ones, each once, in the order of the
definition. -/
def permittedIds (d : Definition) (allowed : List String) : List String :=
  (firsts d.datasetIds).filter fun id => allowed.contains id

/-- The start month of a definition's calendar, or a default for a calendar that is not known. -/
def startMonth (calendars : Keyed FiscalCalendar) (default : Int) (calendarId : String) : Int :=
  ((calendars.get? calendarId).map (·.startMonth)).getD default

end Definition

end Reporting
