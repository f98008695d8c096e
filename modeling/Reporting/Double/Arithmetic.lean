import Reporting.Double.Basic

/-!
# Arithmetic of doubles

Each operation forms its exact result in units and rounds it once. Infinities and not-a-number
follow the usual rules, and a zero result keeps the sign that its operands give it.
-/

namespace Reporting.Double

/-- The double with the other sign. -/
def neg : Double → Double
  | .finite s a => .finite (!s) a
  | .infinite s => .infinite (!s)
  | .nan => .nan

/-- The double without its sign. -/
def abs : Double → Double
  | .finite _ a => .finite false a
  | .infinite _ => .infinite false
  | .nan => .nan

/-- The exact sum, rounded. Two negative zeros add up to a negative zero; any other sum of zero
is positive. -/
def add : Double → Double → Double
  | .finite s a, .finite t b =>
    let total := signed s a + signed t b
    if total = 0 then zero (s && t) else ofRatio (total < 0) total.natAbs 1
  | .infinite s, .infinite t => if s = t then .infinite s else .nan
  | .infinite s, .finite _ _ => .infinite s
  | .finite _ _, .infinite t => .infinite t
  | .nan, _ => .nan
  | _, .nan => .nan

/-- The exact difference, rounded. -/
def sub (x y : Double) : Double := add x (neg y)

/-- The exact product, rounded. -/
def mul : Double → Double → Double
  | .finite s a, .finite t b => ofRatio (s != t) (a.units * b.units) one
  | .infinite s, .infinite t => .infinite (s != t)
  | .infinite s, .finite t b => if b.units = 0 then .nan else .infinite (s != t)
  | .finite s a, .infinite t => if a.units = 0 then .nan else .infinite (s != t)
  | .nan, _ => .nan
  | _, .nan => .nan

/-- The exact quotient, rounded. A finite number over zero is infinite, and zero over zero is not
a number. -/
def div : Double → Double → Double
  | .finite s a, .finite t b =>
    if b.units = 0 then (if a.units = 0 then .nan else .infinite (s != t))
    else ofRatio (s != t) (a.units * one) b.units
  | .infinite s, .finite t _ => .infinite (s != t)
  | .finite s _, .infinite t => zero (s != t)
  | .infinite _, .infinite _ => .nan
  | .nan, _ => .nan
  | _, .nan => .nan

/-- The quotient of two integers, rounded once; none if it rounds beyond the largest double. The
divisor is not zero. -/
def ofQuotient? (n d : Int) : Option Double :=
  (ofRatio ((n < 0) != (d < 0)) (n.natAbs * one) d.natAbs).unlessInfinite

/-- The square root of a natural number, rounded down, by two binary digits at a time. -/
def floorSqrt (n : Nat) : Nat :=
  if n < 2 then n
  else
    let half := 2 * floorSqrt (n / 4)
    if (half + 1) * (half + 1) ≤ n then half + 1 else half
termination_by n

/-- The square root, rounded once. A square root in units has far more binary digits than a
significand, so its whole part and a last digit telling whether anything is left round as the
exact root does. -/
def sqrt : Double → Double
  | .finite s a =>
    if a.units = 0 then .finite s a
    else if s then .nan
    else
      let square := a.units * one
      let root := floorSqrt square
      ofRatio false (2 * root + if root * root = square then 0 else 1) 2
  | .infinite s => if s then .nan else .infinite s
  | .nan => .nan

end Reporting.Double
