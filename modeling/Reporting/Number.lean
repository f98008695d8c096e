import Reporting.Basic
import Reporting.Double.Arithmetic
import Reporting.Double.Decimal
import Reporting.Double.Sum

/-!
# Numbers

A number is an integer of any size or a double. Operations on integers are exact; as soon as a
double takes part, integers are converted first, which fails for those too large for a double.
Comparison needs no conversion: it is exact between integers and doubles too.

Numbers appear in sentences with commas and at most so many decimal places (`grouped`), or with
exactly so many (`withPlaces`). Both round the double of the number, a tie to the even digit. With
commas, no number is written with as many places as `digitsLimit`, and below it a number loses all
of its digits where those before the point and the places behind it come to as many (`isLost`).
-/

namespace Reporting

/-- An integer or a double. -/
inductive Number
  | int (n : Int)
  | double (x : Double)
  deriving DecidableEq

namespace Number

instance : Inhabited Number := ⟨.int 0⟩

/-- The double nearest to an integer. -/
def intToDouble (n : Int) : Outcome Double := Outcome.ofOption .overflow (Double.ofInt? n)

/-- The double nearest to a number. -/
def toDouble : Number → Outcome Double
  | .int n => intToDouble n
  | .double x => .ok x

/-- An operation that is exact on integers and converts them beside a double. -/
def lift (onInts : Int → Int → Int) (onDoubles : Double → Double → Double) :
    Number → Number → Outcome Number
  | .int m, .int n => .ok (.int (onInts m n))
  | .int m, .double y => do return .double (onDoubles (← intToDouble m) y)
  | .double x, .int n => do return .double (onDoubles x (← intToDouble n))
  | .double x, .double y => .ok (.double (onDoubles x y))

/-- The sum of two numbers. -/
def add : Number → Number → Outcome Number := lift (· + ·) Double.add

/-- The difference of two numbers. -/
def sub : Number → Number → Outcome Number := lift (· - ·) Double.sub

/-- The product of two numbers. -/
def mul : Number → Number → Outcome Number := lift (· * ·) Double.mul

/-- The quotient as a double. That of two integers is rounded once, from its exact value. -/
def div : Number → Number → Outcome Double
  | .int m, .int n => Outcome.ofOption .overflow (Double.ofQuotient? m n)
  | x, y => do
    let dividend ← x.toDouble
    return dividend.div (← y.toDouble)

/-- The size of a number. -/
def abs : Number → Number
  | .int n => .int n.natAbs
  | .double x => .double x.abs

/-- The order of two numbers by value; none if either is not a number. -/
def compare? : Number → Number → Option Ordering
  | .int m, .int n => some (compare m n)
  | .int m, .double y => Double.compareInt? m y
  | .double x, .int n => (Double.compareInt? n x).map Ordering.swap
  | .double x, .double y => Double.compare? x y

/-- Equality by value, across integers and doubles. -/
def equals (a b : Number) : Bool := compare? a b = some .eq

/-- Whether a number is below another; not-a-number is below nothing. -/
def less (a b : Number) : Bool := compare? a b = some .lt

/-- Whether a number is below another or equal to it. -/
def lessEq (a b : Number) : Bool := a.less b || a.equals b

/-- Whether a number is zero, of either sign. -/
def isZero : Number → Bool
  | .int n => n = 0
  | .double x => x.isZero

/-- Integers for doubles without a fraction; other numbers stay. -/
def integral : Number → Number
  | .int n => .int n
  | .double x =>
    match x.toInt? with
    | some n => .int n
    | none => .double x

/-- The integers among numbers. -/
def integers (numbers : List Number) : List Int :=
  numbers.filterMap fun
    | .int n => some n
    | .double _ => none

/-- The sum from left to right, starting at the integer zero. -/
def sum (numbers : List Number) : Outcome Number := numbers.foldlM add (.int 0)

/-- The first least number; `first` is the number at the head of the list. -/
def least (first : Number) (rest : List Number) : Number :=
  rest.foldl (fun best n => if n.less best then n else best) first

/-- The first greatest number; `first` is the number at the head of the list. -/
def greatest (first : Number) (rest : List Number) : Number :=
  rest.foldl (fun best n => if best.less n then n else best) first

/-- The numbers without those equal to an earlier one. -/
def distinct : List Number → List Number
  | [] => []
  | n :: rest => n :: (distinct rest).filter fun m => !n.equals m

theorem add_int (m n : Int) : add (.int m) (.int n) = .ok (.int (m + n)) := rfl

theorem sum_cons (n : Number) (rest : List Number) :
    sum (n :: rest) = (add (.int 0) n >>= fun total => rest.foldlM add total) := rfl

/-- The sum of integers is exact. -/
theorem foldlM_add_int (start : Int) (ns : List Int) :
    (ns.map Number.int).foldlM add (.int start) = .ok (.int (start + ns.sum)) := by
  induction ns generalizing start with
  | nil => simp; rfl
  | cons n rest ih =>
    rw [List.map_cons, List.foldlM_cons, add_int]
    exact (ih (start + n)).trans (by rw [List.sum_cons, Int.add_assoc])

theorem sum_int (ns : List Int) : sum (ns.map Number.int) = .ok (.int ns.sum) := by
  rw [sum, foldlM_add_int, Int.zero_add]

/-! ## Amounts in text -/

/-- Decimal places without the zeros at their end, and without the point if none is left. -/
def trimPlaces (cs : List Char) : List Char :=
  if cs.contains '.' then ((Text.dropTrailingZeros cs).reverse.dropWhile (· = '.')).reverse else cs

/-- The first number of decimal places that cannot be asked for. -/
def placesLimit : Nat := 2 ^ 63

/-- The first number of digits that is too large to be counted. -/
def digitsLimit : Nat := 2 ^ 31

/-- Whether a double is written as if it were zero, since its digits before the point and those
behind it are too many to be counted together. Integers below `10 ^ 15` are written without
counting. -/
def isLost (places : Nat) : Double → Bool
  | .finite _ size =>
    digitsLimit ≤ size.wholeDigits + places
      && !(size.units % Double.one = 0 && size.units < 10 ^ 15 * Double.one)
  | _ => false

/-- A number with commas and at most `places` decimal places. Zero has no sign. -/
def grouped (places : Nat) (n : Number) : Outcome String := do
  if places < placesLimit then
    let x ← n.toDouble
    if places < digitsLimit then
      let text := if isLost places x then ['0'] else trimPlaces (x.fixed places true)
      return String.ofList (if text = ['-', '0'] then ['0'] else text)
    else .error .tooManyDigits
  else .error .tooManyDigits

/-- A number with exactly `places` decimal places. -/
def withPlaces (places : Nat) (n : Number) : Outcome String := do
  return String.ofList ((← n.toDouble).fixed places false)

end Number

end Reporting
