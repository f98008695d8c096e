import Reporting.Time.LooseDate.Token
import Reporting.Time.Moment

/-!
# Drafts of loose dates

A draft holds what the tokens of a text have told so far: up to three numbers that are a year, a
month and a day in some order, a day of the week, a time of day, and a zone. In the end the numbers
are told apart (`Draft.resolve?`): a number above 31 is a year and one above 12 no month, and a year
comes first or last.
-/

namespace Reporting.LooseDate

/-- What a text has told so far. -/
structure Draft where
  /-- The numbers of the date, in their order. -/
  numbers : List Nat
  /-- Where the year is among the numbers, if that is known. -/
  yearAt : Option Nat
  /-- Where the month is among the numbers, if that is known. -/
  monthAt : Option Nat
  weekday : Option Nat
  hour : Option Nat
  minute : Option Nat
  second : Option Nat
  micro : Option Nat
  zone : Option Token
  /-- The offset from UTC in minutes. -/
  offset : Option Int
  /-- Whether the sign of the next offset is the opposite one, as behind the name of a zone. -/
  isOpposite : Bool
  deriving DecidableEq, Repr

namespace Draft

/-- A draft of nothing. -/
def blank : Draft := ⟨[], none, none, none, none, none, none, none, none, none, false⟩

/-! ## Numbers of the date -/

/-- Adds a number, which may be known to be the year. There is one year at most. -/
def addNumber? (d : Draft) (n : Nat) (isYear : Bool) : Option Draft :=
  if ¬ isYear then some { d with numbers := d.numbers ++ [n] }
  else if d.yearAt.isSome then none
  else some { d with numbers := d.numbers ++ [n], yearAt := some d.numbers.length }

/-- Adds the number of some digits. Three digits or more are a year. -/
def addDigits? (d : Draft) (t : Token) : Option Draft := do
  d.addNumber? (← natural? t) (2 < t.length)

/-- Adds a month told by its name. There is one such month at most. -/
def addMonth? (d : Draft) (month : Nat) : Option Draft :=
  if d.monthAt.isSome then none
  else some { d with numbers := d.numbers ++ [month], monthAt := some d.numbers.length }

/-- The greatest number of days that a month may have, where it is known and the year may be. -/
def dayLimit (d : Draft) : Nat :=
  match d.monthAt with
  | none => 31
  | some i =>
    let year : Nat := (d.yearAt.map fun j => d.numbers.getD j 0).getD 2000
    Date.monthLength year (d.numbers.getD i 0)

/-! ## Times -/

/-- The hour in a half of the day. -/
def hourIn (isAfternoon : Bool) (hour : Nat) : Nat :=
  if isAfternoon ∧ hour < 12 then hour + 12
  else if ¬ isAfternoon ∧ hour = 12 then 0
  else hour

/-- Sets minutes, and seconds if the minutes have a fraction. -/
def setMinutes (d : Draft) (whole fraction : List Char) : Draft :=
  { d with
    minute := some (Text.digitsValue whole)
    second := if Text.digitsValue fraction = 0 then none else some (sixtieths fraction) }

/-- Sets the seconds of a token, with microseconds. -/
def setSeconds? (d : Draft) (t : Token) : Option Draft := do
  let (whole, fraction) ← numberParts? t
  let micros := fraction.take 6
  return { d with
    second := some (Text.digitsValue whole)
    micro := some (Text.digitsValue micros * 10 ^ (6 - micros.length)) }

/-- Sets a part of the time of day by its unit; units past seconds set nothing. -/
def setUnit? (d : Draft) (t : Token) (unit : Nat) : Option Draft := do
  let (whole, fraction) ← numberParts? t
  match unit with
  | 0 =>
    return { d with
      hour := some (Text.digitsValue whole)
      minute := if Text.digitsValue fraction = 0 then d.minute else some (sixtieths fraction) }
  | 1 => return d.setMinutes whole fraction
  | 2 => d.setSeconds? t
  | _ => return d

/-! ## Resolution -/

/-- A year, a month and a day, as far as they are known. -/
structure Parts where
  year : Option Nat
  month : Option Nat
  day : Option Nat
  deriving DecidableEq, Repr

/-- Three numbers of which the year and the month are known. -/
def byPosition (numbers : List Nat) (yearAt monthAt : Nat) : Parts :=
  let dayAt := 3 - yearAt - monthAt
  ⟨numbers[yearAt]?, numbers[monthAt]?, numbers[dayAt]?⟩

/-- Three numbers with the month at a position, or at none. -/
def ofThree (a b c : Nat) (monthAt : Option Nat) (isYearFirst : Bool) : Parts :=
  match monthAt with
  | some 0 => if 31 < b then ⟨some b, some a, some c⟩ else ⟨some c, some a, some b⟩
  | some 1 => if 31 < a then ⟨some a, some b, some c⟩ else ⟨some c, some b, some a⟩
  | some _ => if 31 < b then ⟨some b, some c, some a⟩ else ⟨some a, some c, some b⟩
  | none =>
    if 31 < a ∨ isYearFirst then ⟨some a, some b, some c⟩
    else if 12 < a then ⟨some c, some b, some a⟩
    else ⟨some c, some a, some b⟩

/-- Two numbers, none of which is told by the name of a month. -/
def ofTwo (a b : Nat) : Parts :=
  if 31 < a then ⟨some a, some b, none⟩
  else if 31 < b then ⟨some b, some a, none⟩
  else ⟨none, some a, some b⟩

/-- A number beside a month, or alone: a year or a day. -/
def beside (month : Option Nat) (n : Nat) : Parts :=
  if 31 < n then ⟨some n, month, none⟩ else ⟨none, month, some n⟩

/-- The numbers told apart. -/
def resolve? (d : Draft) : Option Parts :=
  match d.numbers, d.yearAt, d.monthAt with
  | [], _, _ => some ⟨none, none, none⟩
  | [n], some _, _ => some ⟨some n, none, none⟩
  | [n], none, some _ => some ⟨none, some n, none⟩
  | [n], none, none => some (beside none n)
  | [a, b], some 0, some _ => some ⟨some a, some b, none⟩
  | [a, b], some _, some _ => some ⟨some b, some a, none⟩
  | [a, b], none, some 0 => some (beside (some a) b)
  | [a, b], none, some _ => some (beside (some b) a)
  | [a, b], _, none => some (ofTwo a b)
  | [a, b, c], some i, some j => some (byPosition [a, b, c] i j)
  | [a, b, c], yearAt, monthAt => some (ofThree a b c monthAt (yearAt = some 0))
  | _, _, _ => none

/-! ## Completion -/

/-- The current year where years of two digits are read. -/
def currentYear : Nat := 2025

/-- The century of the current year. -/
def currentCentury : Nat := 2000

/-- A year of two digits in the century in which it is nearest to the current year. -/
def nearYear (year : Nat) : Nat :=
  if 100 ≤ year then year
  else if currentYear + 50 ≤ currentCentury + year then currentCentury + year - 100
  else currentCentury + year

/-- The year that was meant: one told by digits of its own is taken as it is. -/
def fullYear (d : Draft) (year : Nat) : Nat := if d.yearAt.isSome then year else nearYear year

/-- The offset from UTC in minutes: a zone by another name than that of UTC needs an offset. -/
def offset? (d : Draft) : Option Int :=
  let offset :=
    match d.zone with
    | none => some (d.offset.getD 0)
    | some name => if isUtc name then some 0 else d.offset
  offset.filter fun n => n.natAbs < 24 * 60

/-- The time of day, with zero for what is missing. -/
def clock? (d : Draft) : Option Nat :=
  let clock : Clock := ⟨d.hour.getD 0, d.minute.getD 0, d.second.getD 0, []⟩
  if clock.IsTimeOfDay then
    some (clock.units 9 + d.micro.getD 0 * Moment.nanosPerMicro)
  else none

/-- The next date that falls on a day of the week, if a day of the month is not known. -/
def onWeekday (d : Draft) (parts : Parts) (date : Date) : Date :=
  match d.weekday, parts.day with
  | some weekday, none => .ofDayNumber (date.dayNumber + (7 + weekday - date.weekday) % 7)
  | _, _ => date

/-- Whether a draft tells anything but a day of the week and a zone. -/
def isTelling (d : Draft) : Bool :=
  !d.numbers.isEmpty || d.hour.isSome || d.minute.isSome || d.second.isSome || d.micro.isSome

/-- The date and the time of day that a draft comes to, where parts of the date that are missing are
taken from the first of January of the year one, or have to be there. -/
def complete? (d : Draft) (needsDate : Bool) : Option DateTime := do
  let parts ← d.resolve?
  if ¬ d.isTelling ∨ (needsDate ∧ (parts.year.isNone ∨ parts.month.isNone ∨ parts.day.isNone)) then
    none
  else
    let year := (parts.year.map d.fullYear).getD 1
    let date : Date := ⟨year, parts.month.getD 1, parts.day.getD 1⟩
    let nanos ← d.clock?
    let offset ← d.offset?
    let found := d.onWeekday parts date
    if date.IsValid ∧ found.IsValid then return ⟨found, nanos, offset, false⟩ else none

end Draft

end Reporting.LooseDate
