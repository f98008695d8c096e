import Reporting.Basic

/-!
# Doubles

A double is a sign with a magnitude, an infinity, or not a number. A magnitude is counted in
units of `2 ^ -1074`, the least positive double, so every finite double is an integer number of
units and every exact result is a quotient of integers. Operations are computed exactly on units
and rounded once, to nearest with ties to even (`Double.ofRatio`).

* `Double.nearestUnits_representable`: rounding a quotient gives a significand of at most 53 bits.
* `Double.units_le_of_lt`: a quotient below a whole number never rounds above it.
-/

namespace Reporting

namespace Double

/-- One, in units. -/
def one : Nat := 2 ^ 1074

/-- The first magnitude past the largest double, in units. -/
def bound : Nat := 2 ^ 2098

/-- A number of units that a double can have: a significand of at most 53 bits, shifted. -/
def Representable (units : Nat) : Prop :=
  units < bound ∧ ∃ significand shift, significand ≤ 2 ^ 53 ∧ units = significand * 2 ^ shift

/-- The size of a finite double. -/
structure Magnitude where
  units : Nat
  representable : Representable units
  deriving DecidableEq

theorem bound_pos : 0 < bound := by
  rw [bound]
  generalize 2098 = n
  exact Nat.two_pow_pos n

theorem representable_zero : Representable 0 :=
  ⟨bound_pos, 0, 0, Nat.zero_le _, (Nat.zero_mul _).symm⟩

/-- The zero magnitude. -/
def Magnitude.zero : Magnitude := ⟨0, representable_zero⟩

end Double

/-- A double: a signed magnitude (so zero has two signs), an infinity, or not a number. -/
inductive Double
  | finite (negative : Bool) (size : Double.Magnitude)
  | infinite (negative : Bool)
  | nan
  deriving DecidableEq

namespace Double

instance : Inhabited Double := ⟨.finite false .zero⟩

/-! ## Rounding -/

/-- The whole number nearest to `num / den`; a tie goes to the even one. -/
def roundQuotient (num den : Nat) : Nat :=
  let q := num / den
  let twice := 2 * (num % den)
  if twice < den then q
  else if den < twice then q + 1
  else if q % 2 = 0 then q
  else q + 1

theorem roundQuotient_le_succ (num den : Nat) : roundQuotient num den ≤ num / den + 1 := by
  simp only [roundQuotient]
  split <;> try omega
  split <;> try omega
  split <;> omega

/-- A quotient below a whole number never rounds above it. -/
theorem units_le_of_lt {num den top : Nat} (h : num < top * den) :
    roundQuotient num den ≤ top := by
  have : num / den < top := Nat.div_lt_of_lt_mul (by rwa [Nat.mul_comm])
  have := roundQuotient_le_succ num den
  omega

/-- The distance between neighbouring doubles at a magnitude of `units`. -/
def spacing (units : Nat) : Nat := 2 ^ (units.log2 - 52)

/-- The representable number of units nearest to `num / den`, ties to the even significand. -/
def nearestUnits (num den : Nat) : Nat :=
  roundQuotient num (den * spacing (num / den)) * spacing (num / den)

theorem roundQuotient_spacing_le (num den : Nat) :
    roundQuotient num (den * spacing (num / den)) ≤ 2 ^ 53 := by
  rcases Nat.eq_zero_or_pos den with rfl | hden
  · have := roundQuotient_le_succ num (0 * spacing (num / 0))
    simp only [Nat.zero_mul, Nat.div_zero] at this ⊢
    omega
  · apply units_le_of_lt
    have hq : num / den < 2 ^ ((num / den).log2 + 1) := Nat.lt_log2_self
    have hnum : num < 2 ^ ((num / den).log2 + 1) * den := by
      rwa [Nat.div_lt_iff_lt_mul hden] at hq
    refine Nat.lt_of_lt_of_le hnum ?_
    rw [Nat.mul_left_comm, Nat.mul_comm]
    apply Nat.mul_le_mul_left
    rw [spacing, ← Nat.pow_add]
    exact Nat.pow_le_pow_right (by decide) (by omega)

theorem nearestUnits_representable {num den : Nat} (h : nearestUnits num den < bound) :
    Representable (nearestUnits num den) :=
  ⟨h, roundQuotient num (den * spacing (num / den)), (num / den).log2 - 52,
    roundQuotient_spacing_le num den, rfl⟩

/-- The double nearest to `num / den` units, with the given sign; beyond the largest it is
infinite. -/
def ofRatio (negative : Bool) (num den : Nat) : Double :=
  if h : nearestUnits num den < bound then
    .finite negative ⟨nearestUnits num den, nearestUnits_representable h⟩
  else .infinite negative

/-- The zero of a sign. -/
def zero (negative : Bool) : Double := .finite negative .zero

/-- The integer number of units of a sign and a magnitude. -/
def signed (negative : Bool) (size : Magnitude) : Int :=
  if negative then -(size.units : Int) else size.units

/-! ## Integers and doubles -/

/-- A double, unless it is infinite. -/
def unlessInfinite : Double → Option Double
  | .infinite _ => none
  | x => some x

/-- The double nearest to an integer, when there is one: integers that round to `2 ^ 1024` or
beyond have none. -/
def ofInt? (n : Int) : Option Double := (ofRatio (n < 0) (n.natAbs * one) 1).unlessInfinite

/-- The double of a small natural number, such as a count. -/
def ofNat (n : Nat) : Double := ofRatio false (n * one) 1

/-- The integer that a double equals, if it has no fraction. -/
def toInt? : Double → Option Int
  | .finite negative size =>
    if size.units % one = 0 then
      some (if negative then -((size.units / one : Nat) : Int) else (size.units / one : Nat))
    else none
  | _ => none

/-- A finite double without its fraction; infinities and not-a-number count as zero. -/
def truncate : Double → Int
  | .finite negative size =>
    if negative then -((size.units / one : Nat) : Int) else (size.units / one : Nat)
  | _ => 0

/-- Whether a double is a number and not an infinity. -/
def isFinite : Double → Bool
  | .finite _ _ => true
  | _ => false

/-- Whether a double is not a number. -/
def isNan : Double → Bool
  | .nan => true
  | _ => false

/-! ## Order -/

/-- The order of two doubles; none if either is not a number. The two zeros are equal. -/
def compare? : Double → Double → Option Ordering
  | .nan, _ => none
  | _, .nan => none
  | .finite s a, .finite t b => some (compare (signed s a) (signed t b))
  | .finite _ _, .infinite t => some (if t then .gt else .lt)
  | .infinite s, .finite _ _ => some (if s then .lt else .gt)
  | .infinite s, .infinite t =>
    some (if s = t then .eq else if s then .lt else .gt)

/-- The order of an integer and a double, exactly; none if the double is not a number. -/
def compareInt? (n : Int) : Double → Option Ordering
  | .finite t b => some (compare (n * one) (signed t b))
  | .infinite t => some (if t then .gt else .lt)
  | .nan => none

/-- Whether a double is a zero of either sign. -/
def isZero : Double → Bool
  | .finite _ size => size.units = 0
  | _ => false

end Double

end Reporting
