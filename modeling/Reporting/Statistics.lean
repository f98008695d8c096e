import Reporting.Double.Sum
import Reporting.Number

/-!
# Statistics

The mean, the population standard deviation and the linear forecast of numbers, in doubles. Sums
are pairwise. A list with an integer of more than 64 bits is added number by number instead, from
left to right, so that integers stay exact; its mean rounds the sum before it divides, and its
deviation is taken from the quotient rounded once.
-/

namespace Reporting.Statistics

/-- Whether a list holds an integer of more than 64 bits. -/
def isWide (numbers : List Number) : Bool :=
  (Number.integers numbers).any fun n => n < -2 ^ 63 || 2 ^ 64 ≤ n

/-- The pairwise sum over the number of items. -/
def average (xs : List Double) : Double :=
  (Double.pairwiseSum xs).div (Double.ofNat xs.length)

/-- The mean of numbers; zero if there are none. -/
def mean (numbers : List Number) : Outcome Double :=
  if numbers.isEmpty then .ok (.zero false)
  else if isWide numbers then do
    return (← (← Number.sum numbers).toDouble).div (Double.ofNat numbers.length)
  else do return average (← numbers.mapM Number.toDouble)

/-- The number that deviations are taken from. -/
def center (numbers : List Number) : Outcome Double := do
  if isWide numbers then (← Number.sum numbers).div (.int numbers.length)
  else mean numbers

/-- The population standard deviation; zero for fewer than two numbers. -/
def deviation (numbers : List Number) : Outcome Double := do
  if numbers.length < 2 then return .zero false
  else
    let middle ← center numbers
    let squares := (← numbers.mapM Number.toDouble).map fun x =>
      (x.sub middle).mul (x.sub middle)
    if isWide numbers then
      return ((Double.runningSum squares).div (Double.ofNat numbers.length)).sqrt
    else return (average squares).sqrt

/-- The positions of a list, counted from one. -/
def positions (length : Nat) : List Double := (List.range' 1 length).map Double.ofNat

/-- The least-squares line through `(1, x₁), …, (n, xₙ)` at `n + 1`; none for fewer than two
numbers. -/
def forecast (numbers : List Number) : Outcome (Option Double) := do
  if numbers.length < 2 then return none
  else
    let n := Double.ofNat numbers.length
    let ys ← numbers.mapM Number.toDouble
    let xs := positions numbers.length
    let sumX := Double.pairwiseSum xs
    let sumY := Double.pairwiseSum ys
    let denominator :=
      (n.mul (Double.pairwiseSum (xs.zipWith Double.mul xs))).sub (sumX.mul sumX)
    if denominator.isZero then return none
    else
      let slope :=
        ((n.mul (Double.pairwiseSum (xs.zipWith Double.mul ys))).sub (sumX.mul sumY)).div
          denominator
      let intercept := (sumY.sub (slope.mul sumX)).div n
      return some ((slope.mul (Double.ofNat (numbers.length + 1))).add intercept)

end Reporting.Statistics
