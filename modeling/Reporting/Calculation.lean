import Reporting.Calculation.Expression
import Reporting.Calculation.Series
import Reporting.Filter

/-!
# Calculations

A calculation adds a field to every row of a table, or replaces one. Calculations run in their
order and see the fields that earlier ones made. Cells that are no numbers count as zero, and a
calculation of an unknown type leaves the rows as they are.
-/

namespace Reporting

/-- The periods whose change a calculation may show. All compare with the row before. -/
inductive Period
  | month
  | quarter
  | year
  | fiscalYear
  deriving DecidableEq, Repr

/-- What a calculation computes. -/
inductive Calculation.Rule
  | arithmetic (expression : String)
  /-- The difference of two fields, or its share of the second as a percentage. -/
  | variance (percentage : Bool) (minuend subtrahend : String)
  | change (period : Period) (field : String)
  | rolling (field : String) (window : Value)
  | yearToDate (field : String)
  /-- One of two values, by a condition. -/
  | choice (condition : Filter) (yes no : Value)
  | rank (field : String)
  /-- A type that is not known. -/
  | unsupported (type : String)

/-- A calculated field. -/
structure Calculation where
  id : String
  name : String
  output : String
  rule : Calculation.Rule

namespace Calculation

/-- Whether a calculation writes its output. -/
def isSupported (c : Calculation) : Bool :=
  match c.rule with
  | .unsupported _ => false
  | _ => true

/-! ## Single rules -/

/-- The numbers of a row's cells, by field. -/
def context (row : Row) : Outcome (Keyed Number) := do
  let entries ← row.entries.mapM fun entry => do return (entry.1, ← entry.2.toNumber)
  return Keyed.ofList entries

/-- The difference of two numbers, or its percentage of the second, which is zero where the second
is zero. -/
def varianceOf (percentage : Bool) (minuend subtrahend : Number) : Outcome Number := do
  let delta ← minuend.sub subtrahend
  if percentage then
    if subtrahend.isZero then return .int 0
    else (Number.double (← delta.div subtrahend)).mul (.int 100)
  else return delta

/-- The number of rows in a rolling window: three for null, and never less than one. -/
def windowSize : Value → Outcome Int
  | .null => .ok 3
  | value => do
    match ← value.toNumber with
    | .int n => return max 1 n
    | .double x => return max 1 x.truncate

/-- The largest number of rows that a rolling window may have. -/
def largestWindow : Int := 2 ^ 63 - 1

/-- The values of a rolling window over a field. -/
def rollingValues (field : String) (window : Value) (rows : List Row) :
    Outcome (List Double) := do
  let size ← windowSize window
  let series ← Series.ofField field rows
  if size ≤ largestWindow then return Series.rollingTotals size.toNat series
  else .error .overflow

/-- Writes a value to the output of each row. -/
def assign (output : String) (rows : List Row) (values : List Value) : List Row :=
  rows.zipWith (fun row value => row.put output value) values

/-- A double as a cell. -/
def doubleCell (x : Double) : Value := .number (Number.double x).integral

/-- The value of a rule in each row; none for a type that is not known. -/
def values? (rule : Rule) (rows : List Row) : Outcome (Option (List Value)) :=
  match rule with
  | .arithmetic expression => do
    return some (← rows.mapM fun row => do
      return Value.number (← Expression.evaluate (← context row) expression).integral)
  | .variance percentage minuend subtrahend => do
    return some (← rows.mapM fun row => do
      let base ← (row.cell subtrahend).toNumber
      return Value.number (← varianceOf percentage (← (row.cell minuend).toNumber) base).integral)
  | .change _ field => do
    return some ((Series.changes (← Series.ofField field rows)).map doubleCell)
  | .rolling field window => do
    return some ((← rollingValues field window rows).map doubleCell)
  | .yearToDate field => do
    return some ((Series.runningTotals (← Series.ofField field rows)).map doubleCell)
  | .choice condition yes no => do
    return some (← rows.mapM fun row => do
      (if ← condition.accepts row then yes else no).normalize)
  | .rank field => do
    let ranks := Series.ranks (← Series.ofField field rows)
    return some (ranks.map fun (rank : Nat) => Value.int rank)
  | .unsupported _ => .ok none

/-! ## The pipeline -/

/-- The rows with one calculation applied. -/
def apply (c : Calculation) (rows : List Row) : Outcome (List Row) := do
  match ← values? c.rule rows with
  | some values => return assign c.output rows values
  | none => return rows

/-- The rows with calculations applied in order. A table without rows stays as it is. -/
def applyAll (calculations : List Calculation) (rows : List Row) : Outcome (List Row) :=
  if rows.isEmpty then .ok rows
  else calculations.foldlM (fun current c => c.apply current) rows

end Calculation

end Reporting
