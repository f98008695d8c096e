import Reporting.Time.LooseDate.Draft

/-!
# Loose dates

Dates written freely: numbers, names of months and of days of the week, times of day, zones and
words without a meaning of their own, in any order. A token is read with a look at its neighbours,
and those that it explains are read with it (`step?`); one that nothing explains makes the text no
date. `read?` takes a whole text.
-/

namespace Reporting.LooseDate

/-- What reading a token comes to: the draft, and how many of the tokens behind were read with
it. -/
abbrev Progress := Option (Draft × Nat)

/-! ## Numbers -/

/-- The unit of a number, and how many tokens behind the number tell it: a unit behind the number,
or else the one below the unit in front of it. -/
def unitAround? (before after : List Token) : Option (Nat × Nat) :=
  match after with
  | t :: rest =>
    match unit? t with
    | some unit => some (unit, 1)
    | none =>
      match rest.head?.bind unit?, before.head?.bind unit? with
      | some unit, inFront => if t = [' '] then some (unit, 2) else inFront.map (· + 1, 0)
      | none, inFront => inFront.map (· + 1, 0)
  | [] =>
    match before with
    | t :: rest =>
      match unit? t, rest.head?.bind unit? with
      | some unit, _ => some (unit + 1, 0)
      | none, some unit => if t = [' '] then some (unit + 1, 0) else none
      | none, none => none
    | [] => none

/-- Whether a number behind a whole date is a time of day: one of two or four digits at the end, in
front of a blank, or in front of a unit. -/
def isPackedTime (t : Token) (after : List Token) (d : Draft) : Bool :=
  d.numbers.length = 3 && (t.length = 2 || t.length = 4) && d.hour.isNone
    && after.head?.all fun next => next = [' '] || (unit? next).isSome

/-- Reads hours and perhaps minutes that stand together. -/
def readPackedTime (t : Token) (d : Draft) : Progress := do
  let hour ← natural? (t.take 2)
  if t.length = 2 then return ({ d with hour := some hour }, 0)
  else return ({ d with hour := some hour, minute := some (← natural? (t.drop 2)) }, 0)

/-- Reads six digits that stand together: a date of years of two digits, or a time of day behind a
date or with a fraction. -/
def readSix (t : Token) (d : Draft) : Progress := do
  if d.numbers.isEmpty ∧ ¬ t.contains '.' then
    let d ← d.addDigits? (t.take 2)
    let d ← d.addDigits? ((t.drop 2).take 2)
    return (← d.addDigits? (t.drop 4), 0)
  else
    let hour ← natural? (t.take 2)
    let minute ← natural? ((t.drop 2).take 2)
    return (← { d with hour := some hour, minute := some minute }.setSeconds? (t.drop 4), 0)

/-- Reads a date of eight digits that stand together, with hours and minutes and perhaps seconds
behind it. -/
def readEight (t : Token) (d : Draft) : Progress := do
  let d ← d.addDigits? (t.take 4)
  let d ← d.addDigits? ((t.drop 4).take 2)
  let d ← d.addDigits? ((t.drop 6).take 2)
  if t.length = 8 then return (d, 0)
  else
    let hour ← natural? ((t.drop 8).take 2)
    let minute ← natural? ((t.drop 10).take 2)
    let second ← if t.length = 12 then some d.second else (natural? (t.drop 12)).map some
    return ({ d with hour := some hour, minute := some minute, second }, 0)

/-- Reads hours and the minutes behind their colon, and perhaps seconds behind another one. -/
def readClock (hour : Nat) (minutes : Token) (rest : List Token) (d : Draft) : Progress := do
  let (whole, fraction) ← numberParts? minutes
  let d := { d with hour := some hour }.setMinutes whole fraction
  match rest with
  | [':'] :: seconds :: _ => return (← d.setSeconds? seconds, 4)
  | _ => return (d, 2)

/-- Reads what stands behind a number and a mark: another number or a month, and perhaps a third one
behind the same mark. -/
def readMarked (mark : Token) (rest : List Token) (d : Draft) : Progress := do
  let addNamed (d : Draft) (t : Token) : Option Draft :=
    match month? t with
    | some month => d.addMonth? month
    | none => d.addDigits? t
  match rest with
  | [] => return (d, 1)
  | next :: rest =>
    if isFiller next then return (d, 1)
    else
      let d ← addNamed d next
      match rest with
      | second :: rest =>
        if second = mark then return (← addNamed d (← rest.head?), 4) else return (d, 2)
      | [] => return (d, 2)

/-- Whether the digits of a number come to more than a hundred. -/
def isOverHundred (whole fraction : List Char) : Bool :=
  100 < Text.digitsValue whole || (Text.digitsValue whole = 100 && Text.digitsValue fraction ≠ 0)

/-- Reads a number that a filler follows, or nothing: hours if the half of the day comes next, and
otherwise a part of the date. -/
def readAlone (whole fraction : List Char) (after : List Token) (d : Draft) : Progress :=
  match after.tail.head?.bind afternoon? with
  | some isAfternoon =>
    some ({ d with hour := some (Draft.hourIn isAfternoon (Text.digitsValue whole)) }, 2)
  | none => do
    return (← d.addNumber? (Text.digitsValue whole) (isOverHundred whole fraction), 1)

/-- Reads a number in front of a token that is no filler: hours in front of the half of the day, or
a day. -/
def readBefore (whole fraction : List Char) (next : Token) (d : Draft) : Progress :=
  let n := Text.digitsValue whole
  match (afternoon? next).filter fun _ => n < 24 with
  | some isAfternoon => some ({ d with hour := some (Draft.hourIn isAfternoon n) }, 1)
  | none =>
    if 1 ≤ n ∧ (n < d.dayLimit ∨ (n = d.dayLimit ∧ Text.digitsValue fraction = 0)) then do
      return (← d.addNumber? n false, 0)
    else none

/-- Reads a number. -/
def readNumber (before : List Token) (t : Token) (after : List Token) (d : Draft) : Progress := do
  let (whole, fraction) ← numberParts? t
  if isPackedTime t after d then readPackedTime t d
  else if t.length = 6 ∨ whole.length = 6 then readSix t d
  else if t.length ∈ [8, 12, 14] then readEight t d
  else
    match unitAround? before after with
    | some (unit, read) => return (← d.setUnit? t unit, read)
    | none =>
      match after with
      | [] => readAlone whole fraction after d
      | next :: rest =>
        match next, rest with
        | [':'], minutes :: rest => readClock (Text.digitsValue whole) minutes rest d
        | _, _ =>
          if next ∈ [['-'], ['/'], ['.']] then readMarked next rest (← d.addDigits? t)
          else if isFiller next then readAlone whole fraction after d
          else readBefore whole fraction next d

/-! ## Words and marks -/

/-- Reads the name of a month, with the numbers that a mark joins to it, or with a year behind a
word for belonging. -/
def readMonth (month : Nat) (after : List Token) (d : Draft) : Progress := do
  let d ← d.addMonth? month
  match after with
  | mark :: rest =>
    if mark = ['-'] ∨ mark = ['/'] then
      let d ← d.addDigits? (← rest.head?)
      match rest.tail with
      | second :: third =>
        if second = mark then return (← d.addDigits? (← third.head?), 4) else return (d, 2)
      | [] => return (d, 2)
    else
      match mark, rest with
      | [' '], belonging :: [' '] :: year :: _ =>
        if spelling belonging ≠ "of" then return (d, 0)
        else
          match natural? year with
          | some n => return (← d.addNumber? (Draft.nearYear n) true, 4)
          | none => return (d, 4)
      | _, _ => return (d, 0)
  | [] => return (d, 0)

/-- Reads the half of the day, which needs an hour of up to twelve. -/
def readHalf (isAfternoon : Bool) (d : Draft) : Progress := do
  let hour ← d.hour
  if hour ≤ 12 then return ({ d with hour := some (Draft.hourIn isAfternoon hour) }, 0) else none

/-- Whether a token is a sign. -/
def isSign (t : Token) : Bool := t = ['+'] || t = ['-']

/-- Reads the name of a zone. An offset behind it tells what to add to reach UTC. -/
def readZone (t : Token) (after : List Token) (d : Draft) : Progress :=
  if after.head?.any isSign then
    some ({ d with zone := if isUtc t then none else some t, offset := none, isOpposite := true },
      0)
  else some ({ d with zone := some t, offset := if t = ['z'] then some 0 else none }, 0)

/-- The hours and the minutes behind a sign, and the tokens that they take: four digits, hours and
minutes around a colon, or hours alone. -/
def offsetParts? (after : List Token) : Option (Nat × Nat × Nat) := do
  let first ← after.head?
  if first.length = 4 then return (← natural? (first.take 2), ← natural? (first.drop 2), 1)
  else
    match after.tail with
    | [':'] :: minutes => return (← natural? first, ← natural? (← minutes.head?), 3)
    | _ => if first.length ≤ 2 then return (← natural? first, 0, 1) else none

/-- The name of a zone in parentheses behind an offset. -/
def zoneInParentheses? (after : List Token) (d : Draft) : Option Token :=
  match after with
  | filler :: ['('] :: name :: [')'] :: _ =>
    if isFiller filler ∧ 3 ≤ name.length ∧ isZoneName name ∧ d.zone.isNone then some name else none
  | _ => none

/-- Reads an offset behind its sign. -/
def readOffset (sign : Token) (after : List Token) (d : Draft) : Progress := do
  let (hours, minutes, read) ← offsetParts? after
  let size : Int := 60 * hours + minutes
  let isPositive := (sign = ['+']) != d.isOpposite
  let d := { d with offset := some (if isPositive then size else -size), isOpposite := false }
  match zoneInParentheses? (after.drop read) d with
  | some name => return ({ d with zone := some name }, read + 4)
  | none => return (d, read)

/-! ## Texts -/

/-- Reads a token between those before it, last first, and those behind it. -/
def step? (before : List Token) (t : Token) (after : List Token) (d : Draft) : Progress :=
  if (numberParts? t).isSome then readNumber before t after d
  else
    match weekday? t, month? t, afternoon? t with
    | some weekday, _, _ => some ({ d with weekday := some weekday }, 0)
    | _, some month, _ => readMonth month after d
    | _, _, some isAfternoon => readHalf isAfternoon d
    | none, none, none =>
      if d.hour.isSome ∧ d.zone.isNone ∧ d.offset.isNone ∧ isZoneName t then readZone t after d
      else if d.hour.isSome ∧ isSign t then readOffset t after d
      else if isFiller t then some (d, 0)
      else none

/-- Reads tokens into a draft. -/
def readTokens (before : List Token) (d : Draft) : List Token → Option Draft
  | [] => some d
  | t :: after =>
    match step? before t after d with
    | none => none
    | some (d, read) => readTokens ((after.take read).reverse ++ t :: before) d (after.drop read)
termination_by tokens => tokens.length
decreasing_by
  simp only [List.length_drop, List.length_cons]
  omega

/-- The digits of the fraction of the first time of day that is told to the second, with two digits
for its minutes and its seconds. -/
def fractionOf : List Char → List Char
  | [] => []
  | c :: rest =>
    match c, rest with
    | hour, ':' :: a :: b :: ':' :: e :: f :: '.' :: fraction =>
      if [hour, a, b, e, f].all Text.isDigit ∧ fraction.head?.any Text.isDigit then
        fraction.takeWhile Text.isDigit
      else fractionOf rest
    | _, _ => fractionOf rest

/-- A time with the part of its fraction that microseconds leave out. -/
def refined (t : DateTime) (fraction : List Char) : DateTime :=
  if fraction.length ≤ 6 then t
  else
    let digits := (fraction.drop 6).take 3
    { t with
      nanos := t.nanos + Text.digitsValue digits * 10 ^ (3 - digits.length)
      isFine := true }

/-- The date and time that a text tells. Parts of the date that are missing are those of the first
of January of the year one, unless all have to be there; then microseconds are all that counts. -/
def read? (needsDate : Bool) (cs : List Char) : Option DateTime := do
  let d ← readTokens [] .blank (tokens cs)
  let t ← d.complete? needsDate
  return if d.micro.isSome ∧ ¬ needsDate then refined t (fractionOf cs) else t

end Reporting.LooseDate
