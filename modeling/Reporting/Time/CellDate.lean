import Reporting.Numeral
import Reporting.Time.DateTime.YearFirst
import Reporting.Time.DateTime.YearLast
import Reporting.Time.LooseDate
import Reporting.Value

/-!
# Dates in cells

A cell that holds a date is read on its own (`CellDate.ofValue`): a text in the first of the forms
that fits it, with the year in front, with the year behind, or loosely; and a number as nanoseconds
since 1970. The cells of a column share the finest precision among them (`CellDate.dates`), and
nanoseconds have the range of 64 bits only.
-/

namespace Reporting

/-- What a cell says: a moment, if it is one, and whether the cell is to the nanosecond. -/
structure CellDate where
  moment : Option Moment
  isFine : Bool
  deriving DecidableEq, Repr

namespace CellDate

/-- A cell that says nothing. -/
def silent : CellDate := ⟨none, false⟩

/-- The least integer of 64 bits, which stands for a missing time. -/
def missingNanos : Int := -2 ^ 63

/-- Whether a moment can be kept to the nanosecond, in 64 bits. -/
def FitsNanos (m : Moment) : Prop := missingNanos < m.nanos ∧ m.nanos < 2 ^ 63

instance (m : Moment) : Decidable (FitsNanos m) := by
  unfold FitsNanos
  infer_instance

/-! ## Texts -/

/-- The numbers below this are no dates. -/
def numberBound : Nat := 1000

/-- Whether a text is a number that is no date: one below the bound that starts with another digit
than zero. -/
def isSmallNumber (cs : List Char) : Bool :=
  match Numeral.scan? (Text.trimPlain cs) with
  | some (numeral, []) =>
    cs.head? ≠ some '0' && cs.all (·.toNat < 128)
      && Double.compare? numeral.toDouble (Double.ofNat numberBound) = some .lt
  | _ => false

/-- Whether a text starts with hours, a colon and two digits of minutes. -/
def startsWithClock (cs : List Char) : Bool :=
  let isClock (hours : Option (Nat × List Char)) : Bool :=
    match hours with
    | some (hours, ':' :: rest) =>
      hours < 24 && (Text.plainNumber? 2 rest).any fun minutes => minutes.1 < 60
    | _ => false
  isClock (Text.plainNumber? 1 cs) || isClock (Text.plainNumber? 2 cs)

/-- What a text without the year in front tells. Behind a time of day the whole date has to come. -/
def otherForm? (cs : List Char) : Option DateTime :=
  if isSmallNumber cs then none
  else if startsWithClock cs then LooseDate.read? true cs
  else
    match DateTime.yearLast? cs with
    | some found => found.map .midnight
    | none =>
      match DateTime.yearAlone? cs with
      | some found => some (.midnight found)
      | none =>
        match DateTime.quarter? cs with
        | some found => found.map .midnight
        | none => LooseDate.read? false cs

/-- What a text tells. -/
def dateTime? (s : String) : Option DateTime :=
  (DateTime.yearFirst? s.toList).or (otherForm? s.toList)

/-- What a text says. A time that is told to the nanosecond has to fit, with its offset and
without. -/
def ofText (s : String) : CellDate :=
  match dateTime? s with
  | some t =>
    if t.isFine ∧ ¬ (FitsNanos t.told ∧ FitsNanos t.moment) then silent
    else ⟨some t.moment, t.isFine⟩
  | none => silent

/-! ## Cells -/

/-- What a number of nanoseconds says. -/
def ofNanos (n : Int) : CellDate := if n = missingNanos then silent else ⟨some ⟨n⟩, true⟩

/-- What a double says. Infinity is a number of nanoseconds out of range. -/
def ofDouble (x : Double) : CellDate :=
  if x.isFinite then ofNanos x.truncate
  else if x.isNan then silent
  else ⟨none, true⟩

/-- What a cell says. Truth values, lists and objects say nothing. -/
def ofValue : Value → CellDate
  | .text s => ofText s
  | .number (.int n) => ofNanos n
  | .number (.double x) => ofDouble x
  | _ => silent

/-- The dates of cells that stand in one column. Once one of them is fine, those that cannot be kept
to the nanosecond have none. -/
def dates (cells : List Value) : List (Option Date) :=
  let read := cells.map ofValue
  let isFine := read.any (·.isFine)
  read.map fun c => (c.moment.filter fun m => ¬ isFine ∨ FitsNanos m).map Moment.date

end CellDate

end Reporting
