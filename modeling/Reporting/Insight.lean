import Reporting.Number
import Reporting.Statistics
import Reporting.Table

/-!
# Insights

Sentences about the whole table of a run, always in the order trend, driver, anomaly, forecast,
quality. The first four speak of the primary metric; one that lacks data is left out. The summary
joins the first three sentences.
-/

namespace Reporting

/-- What a sentence speaks of. -/
inductive InsightKind
  | trend
  | driver
  | anomaly
  | forecast
  | quality
  deriving DecidableEq, Repr

/-- One sentence about a table. -/
structure Insight where
  kind : InsightKind
  title : String
  detail : String
  deriving DecidableEq, Repr

/-- The insights of a run and their summary. -/
structure Insights where
  bullets : List Insight
  summary : String
  deriving DecidableEq, Repr

namespace Insight

/-! ## Columns -/

/-- Whether a column is named like an id or a year. -/
def isIdentifier (column : String) : Bool :=
  let name := Text.lowerChars column.toList
  Text.occursIn ['i', 'd'] name || Text.occursIn ['y', 'e', 'a', 'r'] name

/-- The first column that is not named like an id or a year and holds a number in some row. -/
def primaryMetric? (columns : List String) (rows : List Row) : Option String :=
  columns.find? fun column => !isIdentifier column && rows.any fun row => (row.cell column).isNumber

/-- The first column other than the metric. -/
def dimension? (columns : List String) (metric : String) : Option String :=
  columns.find? (· ≠ metric)

/-- The text of a column in a row, with a fallback where there is none. -/
def label (fallback : String) (column : Option String) (row : Row) : Outcome String :=
  match column with
  | none => .ok fallback
  | some field =>
    match row.cell field with
    | .null => .ok fallback
    | value => value.toText

/-- The numbers of a metric. -/
def metricNumbers (metric : String) (rows : List Row) : Outcome (List Number) :=
  rows.mapM fun row => (row.cell metric).toNumber

/-! ## Trend -/

/-- The share of a change in its start as a percentage; zero if the start is zero. -/
def percentage (delta start : Number) : Outcome Double := do
  if start.isZero then return .zero false
  else
    let share ← delta.div start.abs
    return share.mul (Double.ofNat 100)

/-- The change from the first number to the last. -/
def trend? (rows : List Row) (metric : String) : Outcome (Option Insight) := do
  match ← metricNumbers metric rows with
  | first :: second :: later =>
    let last := later.getLastD second
    let delta ← last.sub first
    let change ← percentage delta first
    let direction := if (Number.int 0).lessEq delta then "increased" else "decreased"
    let size ← (Number.double change.abs).withPlaces 1
    return some {
      kind := .trend
      title := "Trend summary"
      detail :=
        metric ++ " " ++ direction ++ " by " ++ size ++ "% across the selected period ("
          ++ (← first.withPlaces 2) ++ " to " ++ (← last.withPlaces 2) ++ ")." }
  | _ => return none

/-! ## Drivers -/

/-- The number of rows that a driver insight lists. -/
def driverCount : Nat := 3

/-- Rows in the order of decreasing absolute numbers, ties in row order. -/
def bySize (labelled : List (String × Number)) : List (String × Number) :=
  labelled.mergeSort fun a b => !a.2.abs.less b.2.abs

/-- The rows with the largest numbers. -/
def driver? (columns : List String) (rows : List Row) (metric : String) :
    Outcome (Option Insight) := do
  if rows.isEmpty then return none
  else
    match dimension? columns metric with
    | none => return none
    | some dimension =>
      let labelled ← rows.mapM fun row => do
        let text ← label "Unspecified" (some dimension) row
        return (text, ← (row.cell metric).toNumber)
      let listed ← ((bySize labelled).take driverCount).mapM fun entry => do
        return entry.1 ++ " (" ++ (← entry.2.grouped 2) ++ ")"
      return some {
        kind := .driver
        title := "Top drivers"
        detail := "Largest contributors are " ++ String.intercalate ", " listed ++ "." }

/-! ## Anomalies -/

/-- The least number of rows in which anomalies are looked for. -/
def anomalyRows : Nat := 4

/-- The number of anomalies listed at most. -/
def anomalyCount : Nat := 2

/-- Whether a number lies two deviations or more from the mean, at two decimal places. -/
def isAnomaly (center spread : Double) (n : Number) : Outcome Bool := do
  let distance := ((← n.toDouble).sub center).div spread
  return Double.compare? (Double.roundPlaces 2 distance.abs) (Double.ofNat 2) matches
    some .gt | some .eq

/-- The first rows that lie far from the mean. -/
def anomaly? (columns : List String) (rows : List Row) (metric : String) :
    Outcome (Option Insight) := do
  let numbers ← metricNumbers metric rows
  if numbers.length < anomalyRows then return none
  else
    let center ← Statistics.mean numbers
    let spread ← Statistics.deviation numbers
    if spread.isZero then return none
    else
      let marked ← (rows.zip numbers).mapM fun entry => do
        return (entry, ← isAnomaly center spread entry.2)
      let flagged := ((marked.filter (·.2)).map (·.1)).take anomalyCount
      if flagged.isEmpty then return none
      else
        let listed ← flagged.mapM fun entry => do
          let text ← label "item" (dimension? columns metric) entry.1
          return text ++ " (" ++ (← entry.2.withPlaces 2) ++ ")"
        return some {
          kind := .anomaly
          title := "Anomaly detection"
          detail :=
            "Detected outliers in " ++ metric ++ ": " ++ String.intercalate ", " listed ++ "." }

/-! ## Forecast -/

/-- The number that the linear forecast expects next, if it is finite. -/
def forecast? (rows : List Row) (metric : String) : Outcome (Option Insight) := do
  match ← Statistics.forecast (← metricNumbers metric rows) with
  | some next =>
    if next.isFinite then
      return some {
        kind := .forecast
        title := "Forecast hint"
        detail :=
          "Simple linear projection indicates next period " ++ metric ++ " at "
            ++ (← (Number.double next).grouped 2) ++ "." }
    else return none
  | none => return none

/-! ## Quality -/

/-- A cell without content. -/
def isMissing : Value → Bool
  | .null => true
  | .text s => s = ""
  | _ => false

/-- A cell that holds the number zero. -/
def isZeroCell : Value → Bool
  | .number n => n.isZero
  | _ => false

/-- The number of cells of rows that satisfy a condition. -/
def countCells (holds : Value → Bool) (rows : List Row) : Nat :=
  (rows.map fun row => row.values.countP holds).sum

/-- Whether the rows of a run have missing or zero cells, or are none at all. -/
def quality (rawRows : List Row) : Insight :=
  if rawRows.isEmpty then
    { kind := .quality
      title := "Data quality"
      detail :=
        "No rows returned for this view. Adjust filters or parameters to retrieve data." }
  else
    { kind := .quality
      title := "Data quality flags"
      detail :=
        "Found " ++ toString (countCells isMissing rawRows) ++ " missing values and "
          ++ toString (countCells isZeroCell rawRows)
          ++ " zero-valued numeric cells in the current result set." }

end Insight

namespace Insights

/-- The number of sentences in a summary. -/
def summaryCount : Nat := 3

/-- The first details, joined with blanks. -/
def summarize (bullets : List Insight) : String :=
  if bullets.isEmpty then "No significant changes detected for the selected report scope."
  else String.intercalate " " ((bullets.take summaryCount).map (·.detail))

/-- The insights about a metric. -/
def ofMetric (columns : List String) (rows : List Row) (metric : String) :
    Outcome (List Insight) := do
  let trend ← Insight.trend? rows metric
  let driver ← Insight.driver? columns rows metric
  let anomaly ← Insight.anomaly? columns rows metric
  let forecast ← Insight.forecast? rows metric
  return [trend, driver, anomaly, forecast].filterMap id

/-- The insights of a table, given by its columns and all its rows, and of the rows that it was
made from. -/
def build (columns : List String) (rows rawRows : List Row) : Outcome Insights := do
  let aboutMetric ←
    match (Insight.primaryMetric? columns rows).filter (· ≠ "") with
    | some metric => ofMetric columns rows metric
    | none => .ok []
  let bullets := aboutMetric ++ [Insight.quality rawRows]
  return ⟨bullets, summarize bullets⟩

end Insights

end Reporting
