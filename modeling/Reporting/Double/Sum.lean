import Reporting.Double.Arithmetic

/-!
# Sums of doubles

Addition of doubles is not associative, so a sum is named by the order in which it adds.
`runningSum` adds from left to right. `pairwiseSum` adds short lists from left to right, lists of
up to 128 in eight interleaved columns, and splits longer ones near the middle; no part of it is a
negative zero. `compensatedSum`
carries the part that each addition lost into the next.
-/

namespace Reporting.Double

/-- The sum from left to right, starting at a positive zero. -/
def runningSum (xs : List Double) : Double := xs.foldl add (zero false)

/-! ## Pairwise -/

/-- The sums of neighbouring pairs. -/
def pairUp : List Double → List Double
  | a :: b :: rest => add a b :: pairUp rest
  | short => short

/-- Adds whole rows of eight to eight column sums, joins the columns in pairs, and then adds what
is left from left to right. -/
def sumInColumns (columns : List Double) : List Double → Double
  | a :: b :: c :: d :: e :: f :: g :: h :: rest =>
    sumInColumns (columns.zipWith add [a, b, c, d, e, f, g, h]) rest
  | rest => rest.foldl add ((pairUp (pairUp (pairUp columns))).headD (zero false))

/-- Where a list too long for columns is split: the middle, rounded down to a multiple of
eight. -/
def splitPoint (length : Nat) : Nat := length / 2 - length / 2 % 8

/-- The pairwise sum. -/
def pairwiseSum (xs : List Double) : Double :=
  if xs.length < 8 then runningSum xs
  else if xs.length ≤ 128 then add (zero false) (sumInColumns (xs.take 8) (xs.drop 8))
  else
    add (pairwiseSum (xs.take (splitPoint xs.length)))
      (pairwiseSum (xs.drop (splitPoint xs.length)))
termination_by xs.length
decreasing_by
  all_goals
    simp only [splitPoint, List.length_take, List.length_drop]
    omega

/-! ## Compensated -/

/-- A sum so far and the rounding error still to be taken off. -/
structure Compensated where
  sum : Double
  excess : Double

namespace Compensated

/-- Nothing added yet. -/
def start : Compensated := ⟨zero false, zero false⟩

/-- Adds one term less the excess, and keeps the new excess. -/
def add (c : Compensated) (x : Double) : Compensated :=
  let term := x.sub c.excess
  let total := c.sum.add term
  ⟨total, (total.sub c.sum).sub term⟩

end Compensated

/-- The compensated sum. An excess that is not finite is forgotten. -/
def compensatedSum (xs : List Double) : Double :=
  (xs.foldl
    (fun c x =>
      let next := c.add x
      if next.excess.isFinite then next else { next with excess := zero false })
    Compensated.start).sum

end Reporting.Double
