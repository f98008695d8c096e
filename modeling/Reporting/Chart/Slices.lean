import Reporting.Double.Sum
import Reporting.Grouping

/-!
# Slices

The points of a pie or a donut are collapsed by category: one slice for each category text, by
first appearance, with the sum of its values. The values form one column, whose kind says how the
sums are formed (`Column`): integers of 64 bits wrap around, larger ones and mixtures with them are
added exactly, and doubles are added pairwise where each category's points stand together, and
with compensation where they do not.
-/

namespace Reporting.Slices

/-- The category of points without one. -/
def unspecified : String := "Unspecified"

/-- The category of a cell. -/
def category : Value → Outcome String
  | .null => .ok unspecified
  | value => value.toText

/-! ## Kinds of columns -/

/-- How a column of values is held. -/
inductive Column
  /-- Integers that wrap around at 64 bits, signed. -/
  | signed
  /-- Integers that wrap around at 64 bits, unsigned. -/
  | unsigned
  /-- Numbers as they are. -/
  | exact
  | doubles
  deriving DecidableEq, Repr

/-- The kind of a column. Integers that neither fit 64 bits with a sign nor without one are held as
they are. -/
def Column.of (numbers : List Number) : Column :=
  let ints := Number.integers numbers
  let large := ints.any (2 ^ 63 ≤ ·)
  if ints.any (· < -2 ^ 63) || ints.any (2 ^ 64 ≤ ·) || (large && ints.any (· < 0)) then .exact
  else if ints.length < numbers.length then .doubles
  else if large then .unsigned
  else .signed

/-- An integer brought into the signed 64-bit range by multiples of `2 ^ 64`. -/
def wrapSigned (n : Int) : Int := n.bmod (2 ^ 64)

/-- An integer brought into the unsigned 64-bit range by multiples of `2 ^ 64`. -/
def wrapUnsigned (n : Int) : Int := n % 2 ^ 64

/-- Whether equal keys stand together. -/
def contiguous : List String → Bool
  | a :: b :: rest => (a = b || !rest.contains a) && contiguous (b :: rest)
  | _ => true

/-! ## Sums -/

/-- The sum of a block of doubles: the first and then the pairwise sum of the others. -/
def blockSum : List Double → Double
  | [] => .zero false
  | x :: rest => x.add (Double.pairwiseSum rest)

/-- The sum of a category's values, held in a column of a kind. -/
def sumIn (column : Column) (together : Bool) (values : List Number) : Outcome Double :=
  match column with
  | .signed => Number.intToDouble (wrapSigned (Number.integers values).sum)
  | .unsigned => Number.intToDouble (wrapUnsigned (Number.integers values).sum)
  | .exact => do (← Number.sum values).toDouble
  | .doubles => do
    let doubles ← values.mapM Number.toDouble
    return if together then blockSum doubles else Double.compensatedSum doubles

/-- One point for each category: its text and the sum of its values. -/
def collapse (categoryField valueField : String) (points : List Row) : Outcome (List Row) := do
  let categories ← points.mapM fun point => category (point.cell categoryField)
  let numbers ← points.mapM fun point => (point.cell valueField).toNumber
  let sums ← (Grouping.groups (categories.zip numbers)).mapM
    (sumIn (Column.of numbers) (contiguous categories))
  return (firsts categories).zipWith
    (fun key total =>
      (Keyed.empty.put categoryField (.text key)).put valueField
        (.number (Number.double total).integral))
    sums

end Reporting.Slices
