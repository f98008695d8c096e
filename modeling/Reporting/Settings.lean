import Reporting.Keyed
import Reporting.Text.Digit
import Reporting.Text.Split

/-!
# Settings

Settings come from named texts. A missing or blank text, or one that should be a whole number and
is none, leaves the default. Whole numbers may be spelled in the digits of any script.
-/

namespace Reporting

/-- The settings of a server. -/
structure Settings where
  pageSize : Int
  fiscalStartMonth : Int
  uploadMaxRows : Int
  corsOrigins : List String
  deriving DecidableEq, Repr

namespace Settings

/-- The trimmed text of a name, if there is anything in it. -/
def text? (names : Keyed String) (name : String) : Option String :=
  ((names.get? name).map Text.trim).filter (· ≠ "")

/-- The integer of a name, or a default. -/
def integerOr (default : Int) (names : Keyed String) (name : String) : Int :=
  ((text? names name).bind fun s => Text.integer? Text.isDigit s.toList).getD default

/-- The settings that named texts make. Pages have at least one row, and months lie between one
and twelve. -/
def ofNames (names : Keyed String) : Settings where
  pageSize := max 1 (integerOr 25 names "REPORT_DEFAULT_PAGE_SIZE")
  fiscalStartMonth := min 12 (max 1 (integerOr 11 names "REPORT_DEFAULT_FISCAL_START_MONTH"))
  uploadMaxRows := integerOr 200000 names "REPORT_UPLOAD_MAX_ROWS"
  corsOrigins := Text.commaItems ((text? names "REPORT_CORS_ORIGINS").getD "*")

/-- The settings without any named text. -/
def standard : Settings := ofNames .empty

end Settings

end Reporting
