import Reporting.Dataset.Merge
import Reporting.Dataset.Sheet
import Reporting.Distinct
import Reporting.Text.Split
import Reporting.Text.UpperCase
import Reporting.Time.CellDate
import Reporting.Time.ClockReading

/-!
# Datasets

A dataset is known by its definition, which says who may read or build on it, and has a sheet once
one is uploaded. Roles are compared trimmed and in upper case; the first permission that names a
role decides.

A fiscal year that starts in a month other than January is named for the calendar year in which it
ends: dates from that month on belong to the next year. A cell without a date counts as of the
current year.
-/

namespace Reporting

/-- What a permission allows. Building includes viewing. -/
inductive Access
  | view
  | build
  deriving DecidableEq, Repr

/-- A person that acts, in a role. -/
structure Principal where
  id : String
  email : Option String
  role : String
  deriving DecidableEq, Repr

namespace Principal

/-- The role as it is compared. -/
def roleName (p : Principal) : String := Text.upper (Text.trim p.role)

/-- Whether the role is that of the administrators. -/
def isAdministrator (p : Principal) : Bool := p.roleName = "ADMIN"

end Principal

/-- What some roles may do. -/
structure Permission where
  roles : List String
  access : Access
  deriving DecidableEq, Repr

/-- The definition of a dataset. -/
structure Dataset where
  id : String
  name : String
  description : String
  primaryKeys : List String
  permissions : List Permission
  /-- The column that holds the dates of fiscal years. -/
  fiscalDateField : Option String
  updatedAt : String
  deriving DecidableEq, Repr

namespace Dataset

/-- The roles of the organisation. -/
def allRoles : List String :=
  ["BASIC_USER", "FINANCE_GOVERNANCE_USER", "PROJECT_GOVERNANCE_USER", "SPO_COMMITTEE_HUB_USER",
    "PROJECT_MANAGEMENT_HUB_ADMIN", "PROJECT_MANAGEMENT_HUB_BASIC_USER", "ADMIN"]

/-- A dataset as it is registered: without permissions it is open to every role. -/
def opened (d : Dataset) : Dataset :=
  if d.permissions.isEmpty then { d with permissions := [⟨allRoles, .build⟩] } else d

@[simp] theorem id_opened (d : Dataset) : d.opened.id = d.id := by
  rw [opened]
  split <;> rfl

/-- The first permission that names a principal's role. -/
def permission? (d : Dataset) (p : Principal) : Option Permission :=
  d.permissions.find? fun permission => permission.roles.contains p.roleName

/-- Whether a principal has access to a dataset. -/
def permits (d : Dataset) (p : Principal) (required : Access) : Bool :=
  match d.permission? p with
  | none => false
  | some permission => required = .view || permission.access = .build

end Dataset

/-! ## Fiscal years -/

namespace FiscalYear

/-- The fiscal year of a date, for years that start in the given month. -/
def ofDate (startMonth : Int) (d : Date) : Int :=
  if startMonth ≠ 1 ∧ startMonth ≤ d.month then d.year + 1 else d.year

/-- The dates of a column. -/
def datesOf : Column → List (Option Date)
  | .moments cells => cells.map fun cell => cell.map Moment.date
  | column => CellDate.dates column.values

/-- The calendar year of a clock reading in UTC. -/
def calendarYear (now : ClockReading) : Outcome Int := do
  let d ← Outcome.ofOption .overflow (← now.utc).date?
  return d.year

/-- The fiscal years of a column. The current year is asked for in any case. -/
def ofColumn (startMonth : Int) (now : ClockReading) (column : Column) : Outcome (List Int) := do
  let currentYear ← calendarYear now
  return (datesOf column).map fun d => d.elim currentYear (ofDate startMonth)

end FiscalYear

/-! ## Loading -/

/-- The datasets of a registry and their sheets, each under the id of the dataset. -/
structure Registry where
  datasets : Keyed Dataset
  sheets : Keyed Sheet
  id_of_get? : ∀ {id d}, datasets.get? id = some d → d.id = id

namespace Registry

/-- The registry without datasets. -/
def empty : Registry := ⟨.empty, .empty, by simp⟩

/-- Adds or replaces a dataset, and its sheet if there is one. -/
def register (registry : Registry) (d : Dataset) (sheet : Option Sheet) : Registry where
  datasets := registry.datasets.put d.id d.opened
  sheets := sheet.elim registry.sheets (registry.sheets.put d.id)
  id_of_get? := by
    intro id found h
    rw [Keyed.get?_put] at h
    split at h
    · next e => simpa [← Option.some.inj h] using e
    · exact registry.id_of_get? h

/-- The datasets that a principal has access to, in order of registration. -/
def accessible (registry : Registry) (p : Principal) (required : Access) : List Dataset :=
  registry.datasets.values.filter fun d => d.permits p required

/-- The column that names the dataset in each of its rows. -/
def datasetColumn : String := "dataset_id"

/-- The column of fiscal years. -/
def fiscalColumn : String := "fiscal_year"

/-- The sheet of a dataset as it is loaded: its id in front, and fiscal years behind if it declares
a column of dates and has no fiscal years of its own. -/
def loadedSheet (id : String) (d : Dataset) (sheet : Sheet) (startMonth : Int)
    (now : ClockReading) : Outcome Sheet := do
  if sheet.names.contains datasetColumn then throw .reservedColumn
  else
    let columns :=
      (datasetColumn, Column.texts (List.replicate sheet.size (some id))) :: sheet.columns
    let named : Sheet := ⟨columns⟩
    match d.fiscalDateField.filter (· ≠ "") with
    | some field =>
      if named.names.contains field ∧ ¬ named.names.contains fiscalColumn then
        match named.column? field with
        | some dates =>
          let years ← FiscalYear.ofColumn startMonth now dates
          return ⟨columns ++ [(fiscalColumn, Column.integers (years.map some))]⟩
        | none => throw .ambiguousDates
      else return named
    | none => return named

/-- The rows of a dataset; none if it has no definition or no sheet. -/
def datasetRows (registry : Registry) (id : String) (startMonth : Int) (now : ClockReading) :
    Outcome (List Row) := do
  match registry.datasets.get? id, registry.sheets.get? id with
  | some d, some sheet => return (← loadedSheet id d sheet startMonth now).records
  | _, _ => return []

/-- The rows of the datasets that a principal may view, one after the other. Rows of several
datasets are merged. -/
def loadRows (registry : Registry) (p : Principal) (ids : List String)
    (startMonth : Int) (now : ClockReading) : Outcome (List Row) := do
  let allowed := (registry.accessible p .view).map (·.id)
  let parts ← (ids.filter fun id => allowed.contains id).mapM fun id =>
    registry.datasetRows id startMonth now
  if ids.length ≤ 1 then return parts.flatten
  else Merge.mergeRows Merge.defaultKey parts.flatten

end Registry

end Reporting
