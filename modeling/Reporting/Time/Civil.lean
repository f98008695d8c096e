import Reporting.Basic

/-!
# Civil dates

Dates of the Gregorian calendar, also before its introduction and before the year one, and their
numbers. Day one is the first of January of the year one. `Date.ofDayNumber` takes the year from the
mean length of years and corrects it by at most one. A date may also be given by the week of its
year (`Date.ofWeek?`): weeks start on Mondays, and the first of a year holds its fourth of January.
-/

namespace Reporting

/-- A year, a month and a day. -/
structure Date where
  year : Int
  month : Nat
  day : Nat
  deriving DecidableEq, Repr

namespace Date

/-- Whether a year has a 29th of February. -/
def isLeap (year : Int) : Bool := year % 4 = 0 && (year % 100 ≠ 0 || year % 400 = 0)

/-- The lengths of the months of a year. -/
def monthLengths (leap : Bool) : List Nat :=
  [31, if leap then 29 else 28, 31, 30, 31, 30, 31, 31, 30, 31, 30, 31]

/-- The number of days of a month. -/
def monthLength (year : Int) (month : Nat) : Nat :=
  (monthLengths (isLeap year)).getD (month - 1) 0

/-- The number of days before the first of January of a year, from the year one on. -/
def daysBeforeYear (year : Int) : Int :=
  365 * (year - 1) + (year - 1) / 4 - (year - 1) / 100 + (year - 1) / 400

/-- The number of days of a year before a month. -/
def daysBeforeMonth (leap : Bool) (month : Nat) : Nat :=
  ((monthLengths leap).take (month - 1)).sum

/-- Whether a date occurs in the calendar of its year. -/
def Occurs (d : Date) : Prop :=
  1 ≤ d.month ∧ d.month ≤ 12 ∧ 1 ≤ d.day ∧ d.day ≤ monthLength d.year d.month

instance (d : Date) : Decidable d.Occurs := by
  unfold Occurs
  infer_instance

/-- Whether a date occurs in the years 1 to 9999. -/
def IsValid (d : Date) : Prop := 1 ≤ d.year ∧ d.year ≤ 9999 ∧ d.Occurs

instance (d : Date) : Decidable d.IsValid := by
  unfold IsValid
  infer_instance

/-- The number of a date, from the year one on. -/
def dayNumber (d : Date) : Int :=
  daysBeforeYear d.year + daysBeforeMonth (isLeap d.year) d.month + d.day

/-! ## The date with a number -/

/-- The month and the day of a day of the year, counted from zero, in months of given lengths, the
first of which has the given number. -/
def splitDay (month day : Nat) : List Nat → Nat × Nat
  | [] => (month, day + 1)
  | length :: rest =>
    if day < length then (month, day + 1) else splitDay (month + 1) (day - length) rest

/-- The year that holds the day after so many days. -/
def yearAfter (days : Int) : Int :=
  let guess := days * 400 / 146097 + 1
  if days < daysBeforeYear guess then guess - 1
  else if daysBeforeYear (guess + 1) ≤ days then guess + 1
  else guess

/-- The date with a number. -/
def ofDayNumber (number : Int) : Date :=
  let year := yearAfter (number - 1)
  let (month, day) :=
    splitDay 1 (number - 1 - daysBeforeYear year).toNat (monthLengths (isLeap year))
  ⟨year, month, day⟩

/-- The number of the last day of the year 9999. -/
def lastDayNumber : Int := 3652059

/-! ## Weeks -/

/-- The number of days since the last Monday. Day one is a Monday. -/
def weekday (d : Date) : Nat := ((d.dayNumber - 1) % 7).toNat

/-- The number of the Monday with which the first week of a year starts. -/
def firstMonday (year : Int) : Int :=
  let fourth := daysBeforeYear year + 4
  fourth - (fourth - 1) % 7

/-- The number of weeks of a year. -/
def weeks (year : Int) : Int := (firstMonday (year + 1) - firstMonday year) / 7

/-- The date of a day of a week of a year, if it lies in the years 1 to 9999. -/
def ofWeek? (year : Int) (week day : Nat) : Option Date :=
  let number := firstMonday year + 7 * (week - 1) + (day - 1)
  if 1 ≤ year ∧ 1 ≤ week ∧ week ≤ weeks year ∧ 1 ≤ day ∧ day ≤ 7 ∧ number ≤ lastDayNumber then
    some (ofDayNumber number)
  else none

end Date

end Reporting
