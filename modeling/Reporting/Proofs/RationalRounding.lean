import Mathlib.Algebra.Order.Field.Power
import Mathlib.Algebra.Order.Field.Rat
import Mathlib.Algebra.Order.Ring.Abs
import Mathlib.Data.Nat.Log
import Mathlib.Tactic.Linarith
import Mathlib.Tactic.Ring
import Reporting.Proofs.NearestDoubles

/-!
# Rounding rational numbers

A magnitude is nearest to a rational number if none is nearer, and if of two nearest ones it is
that with the even significand (`Double.Magnitude.IsNearest`). There is at most one
(`Double.Magnitude.IsNearest.unique`), and rounding a quotient gives it unless the quotient
overflows (`Double.ofRatio_nearest`). Decimals are rounded as the quotients they are: the limits on
their places only save work (`Double.ofDecimal_eq_ofRatio`).
-/

namespace Reporting

namespace Double

/-! ## Nearest to a rational number -/

/-- The rational number that a magnitude is. -/
def Magnitude.value (size : Magnitude) : ℚ := size.units / one

/-- Whether the significand of a magnitude is even. -/
def Magnitude.IsEven (size : Magnitude) : Prop := 2 * spacing size.units ∣ size.units

/-- A magnitude is nearest to a rational number if none is nearer and if, where another is as near,
its significand is even. -/
def Magnitude.IsNearest (size : Magnitude) (q : ℚ) : Prop :=
  ∀ other : Magnitude, |size.value - q| ≤ |other.value - q| ∧
    (|other.value - q| = |size.value - q| → other ≠ size → size.IsEven)

/-- A rational number overflows if no magnitude is nearer to it than `2 ^ 1024`, the first one that
doubles do not have. -/
def Overflows (q : ℚ) : Prop := ∀ size : Magnitude, |2 ^ 1024 - q| ≤ |size.value - q|

theorem one_pos_rat : (0 : ℚ) < one := Nat.cast_pos.2 one_pos

theorem cast_dist (m n : Nat) : (Nat.dist m n : ℚ) = |(m : ℚ) - n| := by
  obtain hle | hle := Nat.le_total m n
  · rw [Nat.dist_eq_sub_of_le hle, Nat.cast_sub hle, abs_sub_comm, abs_of_nonneg]
    exact sub_nonneg.2 (Nat.cast_le.2 hle)
  · rw [Nat.dist_eq_sub_of_le_right hle, Nat.cast_sub hle, abs_of_nonneg]
    exact sub_nonneg.2 (Nat.cast_le.2 hle)

theorem Magnitude.value_mul_one (size : Magnitude) : size.value * one = size.units :=
  div_mul_cancel₀ _ one_pos_rat.ne'

theorem Magnitude.eq_of_units {a b : Magnitude} (h : a.units = b.units) : a = b := by
  cases a
  cases b
  cases h
  rfl

/-! ## Rounding a quotient -/

section Quotient

variable {num den : Nat} {q : ℚ} (hden : 0 < den) (hq : q * (one * den) = num)

include hden hq

/-- The distance of a magnitude from the quotient, in units times the divisor. -/
theorem dist_eq (size : Magnitude) :
    (Nat.dist num (size.units * den) : ℚ) = |size.value - q| * (one * den) := by
  have hpositive : (0 : ℚ) < one * den := mul_pos one_pos_rat (Nat.cast_pos.2 hden)
  have hunits : (size.units : ℚ) * den = size.value * (one * den) := by
    rw [← mul_assoc, size.value_mul_one]
  rw [cast_dist, Nat.cast_mul, ← hq, hunits, ← sub_mul, abs_mul, abs_of_pos hpositive,
    abs_sub_comm]

theorem isNearest_of_units {size : Magnitude} (hsize : size.units = nearestUnits num den) :
    size.IsNearest q := by
  have hpositive : (0 : ℚ) < one * den := mul_pos one_pos_rat (Nat.cast_pos.2 hden)
  intro other
  obtain ⟨-, significand, shift, hsignificand, hunits⟩ := other.representable
  constructor
  · refine le_of_mul_le_mul_right ?_ hpositive
    rw [← dist_eq hden hq, ← dist_eq hden hq, Nat.cast_le, hsize, hunits]
    exact nearestUnits_nearest num hden hsignificand shift
  · intro htie hother
    have hunits' : significand * 2 ^ shift ≠ nearestUnits num den := by
      rw [← hunits, ← hsize]
      exact fun h => hother (Magnitude.eq_of_units h)
    rw [Magnitude.IsEven, hsize]
    refine two_mul_spacing_dvd_nearestUnits hden hsignificand hunits' ?_
    rw [← hunits, ← hsize, ← Nat.cast_inj (R := ℚ), dist_eq hden hq, dist_eq hden hq, htie]

end Quotient

/-! ## Where rounding overflows -/

theorem bound_eq_pow_mul_one : bound = 2 ^ 1024 * one := by
  rw [bound, one, ← Nat.pow_add]

/-- The largest double. -/
def Magnitude.largest : Magnitude where
  units := (2 ^ 53 - 1) * topSpacing
  representable := by
    refine ⟨?_, 2 ^ 53 - 1, 970 + 1074 + 1, by decide, by rw [topSpacing]⟩
    rw [bound_eq]
    exact Nat.mul_lt_mul_of_pos_right (by decide) topSpacing_pos

theorem Magnitude.abs_value_sub (size : Magnitude) (q : ℚ) :
    |size.value - q| * one = |size.units - q * one| := by
  rw [← size.value_mul_one, ← sub_mul, abs_mul, abs_of_pos one_pos_rat]

/-- Overflow, in units. -/
theorem overflows_iff_units {q : ℚ} : Overflows q ↔
    ∀ size : Magnitude, |2 ^ 53 * topSpacing - q * one| ≤ |size.units - q * one| := by
  have hpast : |2 ^ 1024 - q| * (one : ℚ) = |2 ^ 53 * (topSpacing : ℚ) - q * one| := by
    have hbound := congrArg (Nat.cast : Nat → ℚ) (bound_eq_pow_mul_one.symm.trans bound_eq)
    rw [Nat.cast_mul, Nat.cast_mul, Nat.cast_pow, Nat.cast_pow, Nat.cast_ofNat] at hbound
    rw [← hbound, ← sub_mul, abs_mul, abs_of_pos one_pos_rat]
  refine forall_congr' fun size => ?_
  rw [← hpast, ← size.abs_value_sub, mul_le_mul_iff_left₀ one_pos_rat]

theorem cast_largest (step : Nat) : (((2 ^ 53 - 1) * step : Nat) : ℚ) = (2 ^ 53 - 1) * step := by
  rw [Nat.cast_mul]
  norm_num

/-- A rational number overflows exactly from the midpoint past the largest double. -/
theorem overflows_iff {q : ℚ} : Overflows q ↔ (2 ^ 54 - 1) * topSpacing ≤ 2 * (q * one) := by
  have hstep : (0 : ℚ) < topSpacing := Nat.cast_pos.2 topSpacing_pos
  rw [overflows_iff_units]
  generalize q * (one : ℚ) = units
  constructor
  · intro h
    have hlargest := h Magnitude.largest
    rw [Magnitude.largest, cast_largest] at hlargest
    generalize (topSpacing : ℚ) = step at *
    by_contra hbelow
    rw [not_le] at hbelow
    rw [abs_of_pos (by linarith), le_abs] at hlargest
    obtain hle | hle := hlargest <;> linarith
  · intro h size
    have hunits := Nat.cast_le (α := ℚ).2 size.representable.le_largest
    rw [cast_largest] at hunits
    generalize (topSpacing : ℚ) = step at *
    have hnonneg : 0 ≤ units - size.units := by linarith
    rw [abs_sub_comm (size.units : ℚ), abs_of_nonneg hnonneg, abs_le]
    constructor <;> linarith

/-- **Rounding a quotient gives the double nearest to it**, unless this overflows. -/
theorem ofRatio_nearest {num den : Nat} {q : ℚ} (hden : 0 < den) (hq : q * (one * den) = num)
    (negative : Bool) :
    Overflows q ∧ ofRatio negative num den = .infinite negative ∨
      ¬ Overflows q ∧ ∃ size : Magnitude, size.IsNearest q ∧
        ofRatio negative num den = .finite negative size := by
  have hiff : nearestUnits num den < bound ↔ ¬ Overflows q := by
    have hpositive : (0 : ℚ) < den := Nat.cast_pos.2 hden
    rw [nearestUnits_lt_bound_iff hden, overflows_iff, not_le, ← mul_lt_mul_iff_left₀ hpositive,
      ← Nat.cast_lt (α := ℚ)]
    push_cast
    rw [← hq]
    generalize (topSpacing : ℚ) = step
    refine iff_of_eq (congrArg₂ _ ?_ ?_)
    · ring
    · norm_num
      ring
  by_cases h : nearestUnits num den < bound
  · exact .inr ⟨hiff.1 h, _, isNearest_of_units hden hq rfl, ofRatio_of_lt h negative⟩
  · exact .inl ⟨not_not.1 fun hnot => h (hiff.2 hnot), ofRatio_of_not_lt h negative⟩

/-! ## The nearest magnitude is one only -/

theorem lt_mul_spacing (units : Nat) : units < 2 ^ 53 * spacing units := by
  refine Nat.lt_of_lt_of_le Nat.lt_log2_self ?_
  rw [spacing, ← Nat.pow_add]
  exact Nat.pow_le_pow_right Nat.two_pos (by omega)

theorem spacing_dvd_spacing {m n : Nat} (h : m ≤ n) : spacing m ∣ spacing n := by
  have hlog : m.log2 ≤ n.log2 := by
    rw [Nat.log2_eq_log_two, Nat.log2_eq_log_two]
    exact Nat.log_mono_right h
  exact Nat.pow_dvd_pow 2 (Nat.sub_le_sub_right hlog 52)

/-- Below a larger magnitude there is the next one. -/
theorem Representable.add_spacing {m n : Nat} (hm : Representable m) (hn : Representable n)
    (h : m < n) : m + spacing m ≤ n ∧ Representable (m + spacing m) := by
  obtain ⟨count, hcount⟩ := hm.spacing_dvd
  have hle : m + spacing m ≤ n := by
    obtain ⟨others, hothers⟩ := (spacing_dvd_spacing h.le).trans hn.spacing_dvd
    have hlt : count < others := by
      refine Nat.lt_of_mul_lt_mul_left (a := spacing m) ?_
      rwa [← hcount, ← hothers]
    calc m + spacing m = spacing m * (count + 1) := by rw [Nat.mul_succ, ← hcount]
      _ ≤ spacing m * others := Nat.mul_le_mul_left _ hlt
      _ = n := hothers.symm
  have hsignificand : count < 2 ^ 53 := by
    refine Nat.lt_of_mul_lt_mul_left (a := spacing m) ?_
    rw [← hcount, Nat.mul_comm]
    exact lt_mul_spacing m
  refine ⟨hle, Nat.lt_of_le_of_lt hle hn.1, count + 1, m.log2 - 52, hsignificand, ?_⟩
  rw [← spacing, Nat.succ_mul, Nat.mul_comm count, ← hcount]

theorem Magnitude.value_lt_value {a b : Magnitude} : a.value < b.value ↔ a.units < b.units := by
  rw [value, value, div_lt_div_iff_of_pos_right one_pos_rat, Nat.cast_lt]

/-- Of two nearest magnitudes none is below the other. -/
theorem Magnitude.IsNearest.not_lt {a b : Magnitude} {q : ℚ} (ha : a.IsNearest q)
    (hb : b.IsNearest q) : ¬ a.units < b.units := by
  intro hlt
  have htie : |a.value - q| = |b.value - q| := le_antisymm (ha b).1 (hb a).1
  have haeven : a.IsEven := (ha b).2 htie.symm fun h => by rw [h] at hlt; omega
  have hbeven : b.IsEven := (hb a).2 htie fun h => by rw [h] at hlt; omega
  obtain ⟨hle, hnext⟩ := a.representable.add_spacing b.representable hlt
  obtain heq | hbetween := Nat.eq_or_lt_of_le hle
  · -- Of two neighbours one has an odd significand.
    have hb2 : 2 * spacing a.units ∣ a.units + spacing a.units := by
      rw [heq]
      exact (Nat.mul_dvd_mul_left 2 (spacing_dvd_spacing hlt.le)).trans hbeven
    have hodd := Nat.le_of_dvd (spacing_pos _) ((Nat.dvd_add_right haeven).1 hb2)
    have hpositive := spacing_pos a.units
    omega
  · have hpositive := spacing_pos a.units
    have hnearest := (ha ⟨_, hnext⟩).1
    have habove := Magnitude.value_lt_value (a := a) (b := ⟨_, hnext⟩).2 (by dsimp only; omega)
    have hbelow := Magnitude.value_lt_value (a := ⟨_, hnext⟩) (b := b).2 hbetween
    obtain heq | hopposite := abs_eq_abs.1 htie
    · linarith
    · rw [abs_of_nonpos (by linarith), le_abs] at hnearest
      obtain hle | hle := hnearest <;> linarith

theorem Magnitude.IsNearest.unique {a b : Magnitude} {q : ℚ} (ha : a.IsNearest q)
    (hb : b.IsNearest q) : a = b :=
  Magnitude.eq_of_units (Nat.le_antisymm (Nat.le_of_not_lt (hb.not_lt ha))
    (Nat.le_of_not_lt (ha.not_lt hb)))

/-! ## Decimals -/

theorem ofRatio_of_two_mul_lt {num den : Nat} (h : 2 * num < den) (negative : Bool) :
    ofRatio negative num den = zero negative := by
  have hquotient : num / den = 0 := Nat.div_eq_of_lt (by omega)
  have hrest : num % den = num := Nat.mod_eq_of_lt (by omega)
  have hround : nearestUnits num den = 0 := by
    rw [nearestUnits, hquotient, show spacing 0 = 1 from rfl, Nat.mul_one, Nat.mul_one,
      roundQuotient, hrest, if_pos h, hquotient]
  have hlt : nearestUnits num den < bound := by
    rw [hround]
    exact bound_pos
  rw [ofRatio_of_lt hlt, zero]
  exact congrArg _ (Magnitude.eq_of_units hround)

theorem lt_pow_decimalLength (n : Nat) : n < 10 ^ decimalLength n :=
  (Nat.length_toDigits_le_iff (by decide) Nat.length_toDigits_pos).1 (Nat.le_refl _)

theorem pow_decimalLength_le {n : Nat} (h : n ≠ 0) : 10 ^ (decimalLength n - 1) ≤ n := by
  obtain hone | hmore : decimalLength n - 1 = 0 ∨ 0 < decimalLength n - 1 := by omega
  · rw [hone]
    exact Nat.pos_of_ne_zero h
  · refine Nat.le_of_not_lt fun hlt => ?_
    have hle := (Nat.length_toDigits_le_iff (by decide) hmore).2 hlt
    rw [← decimalLength] at hle
    omega

/-- **The limits on the places of a decimal change nothing**: beyond them it rounds to an infinity
or to zero. -/
theorem ofDecimal_eq_ofRatio (negative : Bool) (coefficient : Nat) (exponent : Int) :
    ofDecimal negative coefficient exponent =
      ofRatio negative (coefficient * 10 ^ exponent.toNat * one) (10 ^ (-exponent).toNat) := by
  have hden : (0 : Nat) < 10 ^ (-exponent).toNat := Nat.pow_pos (by decide)
  rw [ofDecimal]
  split
  · next hzero =>
    rw [hzero, Nat.zero_mul, Nat.zero_mul, ofRatio_of_two_mul_lt hden]
  · next hpositive =>
    split
    · next hlarge =>
      -- The decimal has a digit at `10 ^ 400` or above.
      refine (ofRatio_of_not_lt ?_ negative).symm
      rw [nearestUnits_int_lt_iff hden, Nat.not_lt]
      calc intLimit * 10 ^ (-exponent).toNat
          ≤ 10 ^ 400 * 10 ^ (-exponent).toNat :=
            Nat.mul_le_mul_right _ (by decide +kernel)
        _ ≤ 10 ^ (decimalLength coefficient - 1) * 10 ^ exponent.toNat := by
            rw [← Nat.pow_add, ← Nat.pow_add]
            exact Nat.pow_le_pow_right (by decide) (by omega)
        _ ≤ coefficient * 10 ^ exponent.toNat :=
            Nat.mul_le_mul_right _ (pow_decimalLength_le hpositive)
    · split
      · next hsmall =>
        -- The decimal is below `10 ^ -400`, which is less than half of a unit.
        refine (ofRatio_of_two_mul_lt ?_ negative).symm
        calc 2 * (coefficient * 10 ^ exponent.toNat * one)
            = coefficient * 10 ^ exponent.toNat * (2 * one) := by ring
          _ < 10 ^ decimalLength coefficient * 10 ^ exponent.toNat * (2 * one) := by
              refine Nat.mul_lt_mul_of_pos_right ?_ (Nat.mul_pos Nat.two_pos one_pos)
              exact Nat.mul_lt_mul_of_pos_right (lt_pow_decimalLength coefficient)
                (Nat.pow_pos (by decide))
          _ ≤ 10 ^ decimalLength coefficient * 10 ^ exponent.toNat * 10 ^ 400 :=
              Nat.mul_le_mul_left _ (by decide +kernel)
          _ ≤ 10 ^ (-exponent).toNat := by
              rw [← Nat.pow_add, ← Nat.pow_add]
              exact Nat.pow_le_pow_right (by decide) (by omega)
      · split
        · next hwhole => rw [show (-exponent).toNat = 0 by omega, Nat.pow_zero]
        · next hfraction =>
          rw [show exponent.toNat = 0 by omega, Nat.pow_zero, Nat.mul_one]

/-- **A decimal is read as the double nearest to it**, unless it overflows. -/
theorem ofDecimal_nearest (negative : Bool) (coefficient : Nat) (exponent : Int) :
    Overflows (coefficient * 10 ^ exponent) ∧
        ofDecimal negative coefficient exponent = .infinite negative ∨
      ¬ Overflows (coefficient * 10 ^ exponent) ∧ ∃ size : Magnitude,
        size.IsNearest (coefficient * 10 ^ exponent) ∧
        ofDecimal negative coefficient exponent = .finite negative size := by
  rw [ofDecimal_eq_ofRatio]
  refine ofRatio_nearest (Nat.pow_pos (by decide)) ?_ negative
  have hpower : (10 : ℚ) ^ exponent * 10 ^ (-exponent).toNat = 10 ^ exponent.toNat := by
    rw [← zpow_natCast, ← zpow_natCast, ← zpow_add₀ (by norm_num)]
    congr 1
    omega
  push_cast
  rw [← hpower]
  ring

end Double

end Reporting
