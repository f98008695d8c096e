import Reporting.Text.Blank
import Reporting.Time.Moment

/-!
# Dates with the year in front

A year of four digits, a month and a day, parted by the same character or not at all, and perhaps a
time of day behind a T or a blank, with or without colons, and an offset behind it. Where something
parts them, months, days, minutes and seconds may have a single digit. `DateTime.yearFirst?` takes
a whole text of this form, in plain digits.
-/

namespace Reporting.DateTime

/-- One or two decimal digits at the start of a text, and what follows. -/
def shortNumber? (cs : List Char) : Option (Nat × List Char) :=
  match Text.plainNumber? 2 cs with
  | some found => some found
  | none => Text.plainNumber? 1 cs

/-- A number of one or two digits below a bound. -/
def shortBelow? (bound : Nat) (cs : List Char) : Option (Nat × List Char) :=
  (shortNumber? cs).filter fun found => found.1 < bound

/-- A number of two digits below a bound. -/
def twoDigitsBelow? (bound : Nat) (cs : List Char) : Option (Nat × List Char) :=
  (Text.plainNumber? 2 cs).filter fun found => found.1 < bound

/-! ## Dates -/

/-- The characters that may part a year, a month and a day. -/
def isDateMark (c : Char) : Bool := ['-', '.', '/', '\\', ' '].contains c

/-- The month and the day behind a year, as far as they are given, and what follows. A month that
nothing parts from its year needs its day. -/
def monthAndDay? : List Char → Option (Nat × Nat × List Char)
  | [] => some (1, 1, [])
  | mark :: rest =>
    if Text.isPlainDigit mark then do
      let (month, rest) ← Text.plainNumber? 2 (mark :: rest)
      let (day, rest) ← Text.plainNumber? 2 rest
      return (month, day, rest)
    else if isDateMark mark then do
      let (month, rest) ← shortNumber? rest
      match rest with
      | [] => return (month, 1, [])
      | second :: rest =>
        let (day, rest) ← shortNumber? rest
        if second = mark then return (month, day, rest) else none
    else none

/-- The date at the start of a text, and what follows. A minus sign in front makes the year
negative, and a missing year is the year zero. -/
def dateAt? (cs : List Char) : Option (Date × List Char) := do
  let behind := cs.dropWhile Text.isPlainBlank
  let unsigned := if behind.head? = some '-' then behind.tail else behind
  let (year, rest) := (Text.plainNumber? 4 unsigned).getD (0, unsigned)
  let (month, day, rest) ← monthAndDay? rest
  let d : Date := ⟨if cs.head? = some '-' then -year else year, month, day⟩
  if d.Occurs ∧ ¬ unsigned.isEmpty then return (d, rest) else none

/-! ## Times -/

/-- The greatest number of digits that the fraction of a second has. -/
def fractionLimit : Nat := 18

/-- The fraction of a second behind its point, and what follows. -/
def fraction? : List Char → Option (List Char × List Char)
  | '.' :: rest =>
    let digits := rest.takeWhile Text.isPlainDigit
    if digits.length ≤ fractionLimit then some (digits, rest.drop digits.length) else none
  | rest => some ([], rest)

/-- The seconds behind hours and minutes, with their fraction, and what follows. -/
def seconds? (hours minutes : Nat) (read : List Char → Option (Nat × List Char))
    (cs : List Char) : Option (Clock × List Char) := do
  let (seconds, rest) ← read cs
  let (fraction, rest) ← fraction? rest
  return (⟨hours, minutes, seconds, fraction⟩, rest)

/-- A time of day, as far as it is given, and what follows. Hours of a single digit need minutes
behind a colon. -/
def clockAt? (cs : List Char) : Option (Clock × List Char) := do
  let (hours, rest) ← shortBelow? 24 cs
  match rest with
  | ':' :: rest =>
    let (minutes, rest) ← shortBelow? 60 rest
    match rest with
    | ':' :: rest => seconds? hours minutes (shortBelow? 60) rest
    | rest => return (⟨hours, minutes, 0, []⟩, rest)
  | rest =>
    if (Text.plainNumber? 2 cs).isNone then none
    else if ¬ rest.head?.any Text.isPlainDigit then return (⟨hours, 0, 0, []⟩, rest)
    else
      let (minutes, rest) ← twoDigitsBelow? 60 rest
      if rest.head?.any Text.isPlainDigit then seconds? hours minutes (twoDigitsBelow? 60) rest
      else return (⟨hours, minutes, 0, []⟩, rest)

/-- An offset from UTC in minutes that ends a text: nothing, a Z, or a sign, hours and perhaps
minutes. Blanks may stand in front of it, and behind it unless it ends with hours. -/
def offset? (cs : List Char) : Option Int :=
  match cs.dropWhile Text.isPlainBlank with
  | [] => some 0
  | 'Z' :: rest => if rest.all Text.isPlainBlank then some 0 else none
  | sign :: rest => do
    let (hours, rest) ← shortBelow? 24 rest
    let minutes ←
      match rest with
      | [] => some 0
      | mark :: next => do
        let (minutes, rest) ← shortBelow? 60 (if mark = ':' then next else rest)
        if rest.all Text.isPlainBlank then some minutes else none
    let size : Int := 60 * hours + minutes
    if sign = '+' then return size
    else if sign = '-' then return -size
    else none

/-- The number of digits of a fraction up to which it is told in microseconds. -/
def microPlaces : Nat := 6

/-- What a text with the year in front tells. -/
def yearFirst? (cs : List Char) : Option DateTime := do
  let (d, rest) ← dateAt? cs
  match rest with
  | [] => return .midnight d
  | mark :: rest =>
    if mark = 'T' ∨ mark = ' ' then
      let (clock, rest) ← clockAt? rest
      let offset ← offset? rest
      return ⟨d, clock.units 9, offset, microPlaces < clock.fraction.length⟩
    else none

end Reporting.DateTime
