import Reporting.Basic
import Reporting.Time.Civil
import Reporting.Time.Clock

/-!
# Moments

A moment is an instant in nanoseconds. It is written in UTC with milliseconds, which cuts off the
rest (`Moment.toIso`), and only in the years 1 to 9999; or without its zone, with as many digits as
the fraction of its second needs (`Moment.zonelessText`).

What a text tells of a moment is a `DateTime`: a date of any year, a time of day and an offset from
UTC. It may be told to the nanosecond, and then it is fine.
-/

namespace Reporting

/-- An instant, in nanoseconds since the start of 1970 in UTC. -/
structure Moment where
  nanos : Int
  deriving DecidableEq, Repr

namespace Moment

/-- The nanoseconds of a microsecond. -/
def nanosPerMicro : Nat := 1000

/-- The nanoseconds of a second. -/
def nanosPerSecond : Nat := 1000000000

/-- The nanoseconds of a day. -/
def nanosPerDay : Nat := Clock.secondsPerDay * nanosPerSecond

/-- The number of the first day of 1970. -/
def epochDay : Int := Date.dayNumber ⟨1970, 1, 1⟩

/-- The midnight at which a date starts, in UTC. -/
def ofDate (d : Date) : Moment := ⟨(d.dayNumber - epochDay) * nanosPerDay⟩

/-- A moment that comes so many nanoseconds later. -/
def after (m : Moment) (nanos : Int) : Moment := ⟨m.nanos + nanos⟩

/-- The date of a moment in UTC. -/
def date (m : Moment) : Date := .ofDayNumber (epochDay + m.nanos / nanosPerDay)

/-- The date of a moment in UTC, if it lies in the years 1 to 9999. -/
def date? (m : Moment) : Option Date := if m.date.IsValid then some m.date else none

/-! ## Writing -/

/-- The digits of a natural number with zeros in front up to a width. -/
def digits (width n : Nat) : List Char := Text.padded 10 width n

/-- The text of a date and a time of day up to the seconds. -/
def clockText (d : Date) (second : Nat) : List Char :=
  digits 4 d.year.toNat ++ '-' :: digits 2 d.month ++ '-' :: digits 2 d.day ++ 'T'
    :: digits 2 (second / 3600) ++ ':' :: digits 2 (second / 60 % 60) ++ ':'
    :: digits 2 (second % 60)

/-- The nanoseconds of a moment since midnight. -/
def timeOfDay (m : Moment) : Nat := (m.nanos % nanosPerDay).toNat

/-- A moment in UTC with milliseconds. -/
def toIso (m : Moment) : Outcome String :=
  match m.date? with
  | none => .error .overflow
  | some d =>
    .ok (String.ofList
      (clockText d (m.timeOfDay / nanosPerSecond)
        ++ '.' :: digits 3 (m.timeOfDay % nanosPerSecond / 1000000) ++ ['Z']))

/-- The digits of a fraction of a second behind their point: as many as nanoseconds or as
microseconds need, and none for a whole second. -/
def fractionText (nanos : Nat) : List Char :=
  if nanos = 0 then []
  else if nanos % nanosPerMicro = 0 then '.' :: digits 6 (nanos / nanosPerMicro)
  else '.' :: digits 9 nanos

/-- A moment in UTC, without its zone. -/
def zonelessText (m : Moment) : String :=
  String.ofList
    (clockText m.date (m.timeOfDay / nanosPerSecond)
      ++ fractionText (m.timeOfDay % nanosPerSecond))

end Moment

/-! ## Dates with times -/

/-- A date, a time of day in nanoseconds since midnight, an offset from UTC in minutes, and whether
the time is told to the nanosecond. -/
structure DateTime where
  date : Date
  nanos : Nat
  offset : Int
  isFine : Bool
  deriving DecidableEq, Repr

namespace DateTime

/-- The nanoseconds of a minute. -/
def nanosPerMinute : Nat := 60 * Moment.nanosPerSecond

/-- The start of a date in UTC. -/
def midnight (d : Date) : DateTime := ⟨d, 0, 0, false⟩

/-- The moment that is told if the offset does not count. -/
def told (t : DateTime) : Moment := (Moment.ofDate t.date).after t.nanos

/-- The moment that is told. -/
def moment (t : DateTime) : Moment := t.told.after (-(t.offset * nanosPerMinute))

end DateTime

end Reporting
