import Reporting.Double.Basic
import Reporting.Text.Digit

/-!
# Decimal numerals of doubles

`ofDecimal` reads a decimal as the nearest double. In the other direction `fixed` writes a given
number of places, correctly rounded with ties to even, and `shortest` finds the fewest digits that
read back to the same double, the nearest such digits, and the even ones on a tie.
-/

namespace Reporting.Double

/-- The number of decimal digits of a natural number; zero has one. -/
def decimalLength (n : Nat) : Nat := (Nat.toDigits 10 n).length

/-! ## Reading -/

/-- The double nearest to `coefficient * 10 ^ exponent`. Decimals of 400 digits before the point,
or with 400 zeros after it, are out of range without looking closer. -/
def ofDecimal (negative : Bool) (coefficient : Nat) (exponent : Int) : Double :=
  if coefficient = 0 then zero negative
  else if exponent + decimalLength coefficient > 400 then .infinite negative
  else if exponent + decimalLength coefficient < -400 then zero negative
  else if 0 ≤ exponent then ofRatio negative (coefficient * 10 ^ exponent.toNat * one) 1
  else ofRatio negative (coefficient * one) (10 ^ (-exponent).toNat)

/-! ## A fixed number of places -/

/-- A magnitude counted in steps of `10 ^ -places`, rounded with ties to even. -/
def Magnitude.scaled (size : Magnitude) (places : Nat) : Nat :=
  roundQuotient (size.units * 10 ^ places) one

/-- The nearest double to a double rounded to `places` decimal places. -/
def roundPlaces (places : Nat) : Double → Double
  | .finite s a => ofDecimal s (a.scaled places) (-(places : Int))
  | x => x

/-- The number of digits before the point; a magnitude below one has none. -/
def Magnitude.wholeDigits (size : Magnitude) : Nat :=
  if size.units < one then 0 else decimalLength (size.units / one)

/-- Digits, least significant first, with a comma after each three of them. -/
def commas : List Char → List Char
  | a :: b :: c :: d :: rest => a :: b :: c :: ',' :: commas (d :: rest)
  | short => short

/-- The digits of a natural number in threes from the right, parted by commas. -/
def groupedDigits (n : Nat) : List Char :=
  (commas (Nat.toDigits 10 n).reverse).reverse

/-- The text of a double with a fixed number of places, the whole part grouped in threes on
request. A negative double keeps its sign also where it rounds to zero. -/
def fixed (places : Nat) (grouped : Bool) : Double → List Char
  | .finite s a =>
    let scaled := a.scaled places
    let whole := scaled / 10 ^ places
    (if s then ['-'] else [])
      ++ (if grouped then groupedDigits whole else Nat.toDigits 10 whole)
      ++ (if places = 0 then [] else '.' :: Text.padded 10 places (scaled % 10 ^ places))
  | .infinite s => (if s then ['-'] else []) ++ ['i', 'n', 'f']
  | .nan => ['n', 'a', 'n']

/-! ## The fewest digits -/

/-- The exponent of a magnitude's leading decimal digit. Every positive magnitude is above
`10 ^ -400`. -/
def Magnitude.leadingExponent (size : Magnitude) : Int :=
  (decimalLength (size.units * 10 ^ 400 / one) : Int) - 401

/-- Whether `coefficient * 10 ^ exponent` reads as the double of this magnitude: it lies between
the midpoints to the neighbours, which belong to it if its significand is even. Below a power of
two the neighbour is half as far. -/
def Magnitude.readsBack (size : Magnitude) (coefficient : Nat) (exponent : Int) : Bool :=
  let step := spacing size.units
  let below := if size.units = 2 ^ size.units.log2 ∧ 1 < step then step else 2 * step
  let grid := 10 ^ exponent.toNat * one
  let scale := 10 ^ (-exponent).toNat
  let point := 4 * coefficient * grid
  let low := (4 * size.units - below) * scale
  let high := (4 * size.units + 2 * step) * scale
  if size.units / step % 2 = 0 then low ≤ point && point ≤ high
  else low < point && point < high

/-- The decimal of at most so many digits that reads back and lies nearest, if one does: one of
the two neighbours of the magnitude on the grid of that many digits. -/
def Magnitude.withDigits? (size : Magnitude) (digits : Nat) : Option (Nat × Int) :=
  let exponent := size.leadingExponent - digits + 1
  let grid := 10 ^ exponent.toNat * one
  let scaled := size.units * 10 ^ (-exponent).toNat
  let lower := scaled / grid
  let nearest := roundQuotient scaled grid
  if size.readsBack nearest exponent then some (nearest, exponent)
  else if size.readsBack lower exponent then some (lower, exponent)
  else if size.readsBack (lower + 1) exponent then some (lower + 1, exponent)
  else none

/-- The first hit with `digits`, `digits + 1`, … digits, trying `more` further counts. -/
def Magnitude.search (size : Magnitude) (digits : Nat) : Nat → Nat × Int
  | 0 => (size.withDigits? digits).getD (0, 0)
  | more + 1 => (size.withDigits? digits).getD (search size (digits + 1) more)

/-- The fewest digits that read back to a positive magnitude, as a coefficient and an exponent of
ten. Seventeen digits always do. -/
def Magnitude.shortest (size : Magnitude) : Nat × Int := size.search 1 16

/-- How a shortest decimal is laid out: in positions when its leading exponent lies from
`positionsFrom` on and below `positionsBelow`, and with an exponent mark otherwise. -/
structure Layout where
  positionsFrom : Int
  positionsBelow : Int
  /-- The least number of digits of an exponent. -/
  exponentDigits : Nat
  infinity : List Char
  notANumber : List Char

/-- The text of digits whose leading one has the given exponent. -/
def Layout.digits (layout : Layout) (digits : List Char) (leading : Int) : List Char :=
  if layout.positionsFrom ≤ leading ∧ leading < layout.positionsBelow then
    if leading < 0 then
      '0' :: '.' :: List.replicate ((-leading).toNat - 1) '0' ++ digits
    else
      let whole := leading.toNat + 1
      let fraction := digits.drop whole
      digits.take whole ++ List.replicate (whole - digits.length) '0'
        ++ '.' :: if fraction.isEmpty then ['0'] else fraction
  else
    let fraction := digits.drop 1
    digits.take 1 ++ (if fraction.isEmpty then [] else '.' :: fraction)
      ++ 'e' :: (if leading < 0 then '-' else '+')
      :: Text.padded 10 layout.exponentDigits leading.natAbs

/-- The text of a double in its fewest digits. -/
def Layout.text (layout : Layout) : Double → List Char
  | .finite s a =>
    (if s then ['-'] else []) ++
      if a.units = 0 then layout.digits ['0'] 0
      else
        let (coefficient, exponent) := a.shortest
        let digits := Nat.toDigits 10 coefficient
        layout.digits (Text.dropTrailingZeros digits) (exponent + digits.length - 1)
  | .infinite s => (if s then ['-'] else []) ++ layout.infinity
  | .nan => layout.notANumber

end Reporting.Double
