import Reporting.Time.Moment

/-!
# Clock readings

A clock tells microseconds. A reading is a date, of a month or of a week, with an optional time of
day and an optional offset from UTC (`ClockReading.parse?`). Without an offset it is taken in UTC
(`ClockReading.moment`), or in the zone of a running clock, which is UTC too but has to be known
(`ClockReading.utc`).
-/

namespace Reporting

/-- What a clock tells: its date and time of day, as if in UTC, and its offset from UTC in
nanoseconds, if it tells one. -/
structure ClockReading where
  told : Moment
  offset : Option Int
  deriving DecidableEq, Repr

namespace ClockReading

/-! ## Reading dates -/

/-- The number of characters that the date at the start of a text takes. A date of a week may
break off before its day, so what stands behind decides where it ends: a digit behind a second
hyphen and another character belongs to the time of day, and without hyphens that time has an even
number of digits. -/
def dateLength (cs : List Char) : Nat :=
  match cs.drop 4 with
  | '-' :: 'W' :: _ =>
    match cs.drop 8 with
    | '-' :: _ :: next :: _ => if Text.isPlainDigit next then 8 else 10
    | '-' :: _ => 10
    | _ => 8
  | '-' :: _ => 10
  | 'W' :: _ =>
    let behind := ((cs.drop 7).takeWhile Text.isPlainDigit).length
    if behind < 2 then 7 + behind else if behind % 2 = 1 then 7 else 8
  | _ => 8

/-- The day of a week behind its number, or the first one. -/
def weekDay? (hyphens : Bool) (cs : List Char) : Option (Nat × List Char) :=
  match hyphens, cs with
  | _, [] => some (1, [])
  | true, '-' :: rest => Text.plainNumber? 1 rest
  | true, _ => none
  | false, _ => Text.plainNumber? 1 cs

/-- A date with or without hyphens, of a month or of a week. -/
def calendarDate? (cs : List Char) : Option Date := do
  let (year, rest) ← Text.plainNumber? 4 cs
  let hyphens := rest.head? = some '-'
  match if hyphens then rest.tail else rest with
  | 'W' :: rest =>
    let (week, rest) ← Text.plainNumber? 2 rest
    match ← weekDay? hyphens rest with
    | (day, []) => Date.ofWeek? year week day
    | _ => none
  | rest =>
    let (month, rest) ← Text.plainNumber? 2 rest
    if hyphens ∧ rest.head? ≠ some '-' then none
    else
      match ← Text.plainNumber? 2 (if hyphens then rest.tail else rest) with
      | (day, []) => if Date.IsValid ⟨year, month, day⟩ then some ⟨year, month, day⟩ else none
      | _ => none

/-! ## Reading times -/

/-- Whether an offset starts with a character. -/
def isZoneMark (c : Char) : Bool := c = '+' || c = '-' || c = 'Z'

/-- The nanoseconds of a clock time told in microseconds. -/
def clockNanos (c : Clock) : Nat := c.units 6 * Moment.nanosPerMicro

/-- An offset from UTC in nanoseconds, if one is given: a Z, or a sign and a clock time of less than
a day. One of less than a second counts as zero. -/
def offset? : List Char → Option (Option Int)
  | [] => some none
  | ['Z'] => some (some 0)
  | sign :: rest =>
    match Clock.read? rest with
    | some (size, false) =>
      if sign = 'Z' ∨ Moment.nanosPerDay ≤ clockNanos size then none
      else if size.totalSeconds = 0 then some (some 0)
      else some (some (if sign = '-' then -(clockNanos size : Int) else clockNanos size))
    | _ => none

/-- The time of day and the offset that a text spells. A single plain character in front of an
offset does not count. -/
def time? (cs : List Char) : Option (Clock × Option Int) := do
  let zone := cs.dropWhile fun c => !isZoneMark c
  let (clock, more) ← Clock.read? (cs.takeWhile fun c => !isZoneMark c)
  if clock.IsTimeOfDay ∧ ¬ (more ∧ zone.isEmpty) then return (clock, ← offset? zone) else none

/-! ## Readings -/

/-- The reading that a text spells: a date, and behind any one character a time of day and an
offset. -/
def parse? (s : String) : Option ClockReading := do
  let cs := s.toList
  let d ← calendarDate? (cs.take (dateLength cs))
  match cs.drop (dateLength cs) with
  | [] => return ⟨.ofDate d, none⟩
  | _ :: text =>
    let (clock, offset) ← time? text
    return ⟨(Moment.ofDate d).after (clockNanos clock), offset⟩

/-- The moment of a reading; one without an offset is taken in UTC. -/
def moment (r : ClockReading) : Moment := r.told.after (-r.offset.getD 0)

/-- The first midnight from which on the zone of a clock is known: it is looked up a day earlier as
well. -/
def firstKnown : Moment := .ofDate ⟨1, 1, 2⟩

/-- The moment of a running clock, which has to lie in the years 1 to 9999 and, without an offset,
to have a zone. -/
def utc (r : ClockReading) : Outcome Moment :=
  if r.offset.isNone ∧ r.told.nanos < firstKnown.nanos then .error .unknownZone
  else if r.moment.date?.isNone then .error .overflow
  else .ok r.moment

end ClockReading

end Reporting
