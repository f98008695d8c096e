import Reporting.Text.Digit

/-!
# Clock times

A clock time is written as hours, minutes and seconds of two digits each, with or without colons,
as far as they are given, and a fraction behind a point or a comma. `Clock.read?` reads one at the
start of a text and tells whether something stands behind it. The same form gives the size of an
offset from UTC, which is why hours and minutes are not bounded here.
-/

namespace Reporting

/-- Hours, minutes and seconds, and the digits of a fraction of the last second. -/
structure Clock where
  hours : Nat
  minutes : Nat
  seconds : Nat
  fraction : List Char
  deriving DecidableEq, Repr

namespace Clock

/-- The seconds of a day. -/
def secondsPerDay : Nat := 86400

/-- Whether a clock shows a time of day. -/
def IsTimeOfDay (c : Clock) : Prop := c.hours < 24 ∧ c.minutes < 60 ∧ c.seconds < 60

instance (c : Clock) : Decidable c.IsTimeOfDay := by
  unfold IsTimeOfDay
  infer_instance

/-- The whole seconds. -/
def totalSeconds (c : Clock) : Nat := (c.hours * 60 + c.minutes) * 60 + c.seconds

/-- The time in units of `10 ^ -places` seconds; digits of the fraction past those are cut off. -/
def units (places : Nat) (c : Clock) : Nat :=
  let digits := c.fraction.take places
  c.totalSeconds * 10 ^ places + Text.digitsValue digits * 10 ^ (places - digits.length)

/-! ## Reading -/

/-- What stands behind the parts of two digits. -/
inductive Behind
  | nothing
  /-- A single plain character. -/
  | stray
  /-- What should be the digits of a fraction. -/
  | fraction (cs : List Char)

/-- At most so many parts of two digits, and what stands behind them. Behind the last of them the
digits of a fraction may follow without a point. -/
def parts? (colons : Bool) : Nat → List Char → Option (List Nat × Behind)
  | 0, cs => some ([], .fraction cs)
  | more + 1, cs => do
    let (value, rest) ← Text.plainNumber? 2 cs
    match rest with
    | [] => return ([value], .nothing)
    | [mark] => if mark.toNat < 128 then return ([value], .stray) else none
    | mark :: next =>
      if colons ∧ mark = ':' then
        let (values, behind) ← parts? colons more next
        return (value :: values, behind)
      else if mark = '.' ∨ mark = ',' then return ([value], .fraction next)
      else if colons then none
      else
        let (values, behind) ← parts? colons more rest
        return (value :: values, behind)

/-- The digits of a fraction, and whether something follows them. Up to six characters have to be
digits. -/
def fraction? : Behind → Option (List Char × Bool)
  | .nothing => some ([], false)
  | .stray => some ([], true)
  | .fraction cs =>
    if (cs.take 6).all Text.isPlainDigit then
      some (cs.takeWhile Text.isPlainDigit, !(cs.dropWhile Text.isPlainDigit).isEmpty)
    else none

/-- The clock time at the start of a text, and whether something follows it. Parts are parted by
colons if the first two are. -/
def read? (cs : List Char) : Option (Clock × Bool) := do
  let colons := cs[2]? = some ':'
  let (values, behind) ← parts? colons 3 cs
  let (fraction, more) ← fraction? behind
  return (⟨values.getD 0 0, values.getD 1 0, values.getD 2 0, fraction⟩, more)

end Clock

end Reporting
