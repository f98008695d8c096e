import Mathlib.Algebra.Order.BigOperators.Group.List
import Mathlib.Tactic.Ring
import Reporting.Number
import Reporting.Proofs.Outcome

/-!
# The range of doubles

A quotient rounds to a double below the first magnitude past the largest one exactly if it lies
below the midpoint of the two (`Double.nearestUnits_lt_bound_iff`). So an integer has a double
exactly below `Double.intLimit` (`Number.yields_intToDouble_iff`), and a number fits if it is a
double or such an integer (`Number.Fits`). Operations on numbers that fit do not fail, sums do not
as long as their integers fit all together (`Number.yields_sum`), and an integer that equals a
double fits (`Number.fits_integral`).
-/

namespace Reporting

namespace Double

/-! ## Where rounding leaves the range -/

/-- A quotient rounds down below the midpoint, up above it, and at it to the even number. -/
theorem roundQuotient_cases (num den : Nat) :
    roundQuotient num den = num / den ∧
        (2 * (num % den) < den ∨ 2 * (num % den) = den ∧ num / den % 2 = 0) ∨
      roundQuotient num den = num / den + 1 ∧
        (den < 2 * (num % den) ∨ 2 * (num % den) = den ∧ (num / den + 1) % 2 = 0) := by
  simp only [roundQuotient]
  split
  · omega
  · split
    · omega
    · split <;> omega

theorem le_roundQuotient (num den : Nat) : num / den ≤ roundQuotient num den := by
  have hcases := roundQuotient_cases num den
  omega

/-- A quotient rounds below an even number exactly if it lies below the midpoint before it. -/
theorem roundQuotient_lt_iff {num den top : Nat} (hden : 0 < den) (heven : top % 2 = 0)
    (htop : 0 < top) : roundQuotient num den < top ↔ 2 * num < (2 * top - 1) * den := by
  have hparts := Nat.div_add_mod num den
  have hrest := Nat.mod_lt num hden
  have hcases := roundQuotient_cases num den
  generalize roundQuotient num den = rounded at hcases ⊢
  generalize num / den = quotient at hparts hcases
  generalize num % den = rest at hparts hrest hcases
  obtain hbelow | hat | habove : quotient + 1 < top ∨ quotient + 1 = top ∨ top ≤ quotient := by
    omega
  · obtain ⟨more, rfl⟩ := Nat.exists_eq_add_of_lt hbelow
    have hproduct : (2 * (quotient + 1 + more + 1) - 1) * den =
        2 * (den * quotient) + 3 * den + 2 * (more * den) := by
      rw [show 2 * (quotient + 1 + more + 1) - 1 = 2 * quotient + 3 + 2 * more by omega]
      ring
    rw [hproduct]
    omega
  · subst hat
    have hproduct : (2 * (quotient + 1) - 1) * den = 2 * (den * quotient) + den := by
      rw [show 2 * (quotient + 1) - 1 = 2 * quotient + 1 by omega]
      ring
    rw [hproduct]
    -- At the midpoint the odd number below loses to the even one.
    omega
  · obtain ⟨more, rfl⟩ := Nat.exists_eq_add_of_le habove
    have hproduct : (2 * top - 1) * den + den = 2 * (den * top) := by
      rw [← Nat.succ_mul, show (2 * top - 1).succ = 2 * top by omega]
      ring
    have hsum : den * (top + more) = den * top + den * more := Nat.mul_add _ _ _
    omega

theorem spacing_pos (units : Nat) : 0 < spacing units := Nat.two_pow_pos _

theorem two_pow_log2 {units : Nat} (h : 52 ≤ units.log2) :
    2 ^ units.log2 = 2 ^ 52 * spacing units := by
  rw [spacing, ← Nat.pow_add]
  congr 1
  omega

/-- A quotient rounds below a power of two exactly if it lies below the midpoint before it. -/
theorem nearestUnits_lt_iff {num den : Nat} (hden : 0 < den) (k : Nat) :
    nearestUnits num den < 2 ^ 53 * 2 ^ (k + 1) ↔
      2 * num < (2 ^ 54 - 1) * (den * 2 ^ (k + 1)) := by
  have hbelow : num / den < 2 ^ ((num / den).log2 + 1) := Nat.lt_log2_self
  have hsignificand := roundQuotient_spacing_le num den
  have hdouble : (2 : Nat) ^ (k + 1) = 2 * 2 ^ k := by rw [Nat.pow_succ, Nat.mul_comm]
  rw [nearestUnits]
  obtain hsmall | hat | hlarge :
      (num / den).log2 < k + 53 ∨ (num / den).log2 = k + 53 ∨ k + 54 ≤ (num / den).log2 := by
    omega
  · have hspacing : spacing (num / den) ≤ 2 ^ k := Nat.pow_le_pow_right (by omega) (by omega)
    have hunits := Nat.mul_le_mul hsignificand hspacing
    have hpow : (2 : Nat) ^ ((num / den).log2 + 1) ≤ 2 ^ 53 * 2 ^ k := by
      rw [← Nat.pow_add]
      exact Nat.pow_le_pow_right (by omega) (by omega)
    have hnum : num < 2 ^ 53 * 2 ^ k * den :=
      (Nat.div_lt_iff_lt_mul hden).1 (Nat.lt_of_lt_of_le hbelow hpow)
    have hproduct : (2 ^ 54 - 1) * (den * 2 ^ (k + 1)) = 2 * (2 ^ 54 - 1) * (2 ^ k * den) := by
      rw [hdouble]
      ring
    have hfactor : 2 ^ 53 * 2 ^ k * den = 2 ^ 53 * (2 ^ k * den) := Nat.mul_assoc _ _ _
    have hpositive := Nat.two_pow_pos k
    rw [hproduct, hdouble]
    omega
  · have hspacing : spacing (num / den) = 2 ^ (k + 1) := by
      rw [spacing, hat]
      congr 1
    have hpositive := Nat.two_pow_pos (k + 1)
    rw [hspacing, Nat.mul_lt_mul_right hpositive,
      roundQuotient_lt_iff (Nat.mul_pos hden hpositive) (by decide) (by decide)]
    rfl
  · have hlog : num / den ≠ 0 := by
      intro hzero
      rw [hzero, Nat.log2_zero] at hlarge
      omega
    have hleading : 2 ^ (num / den).log2 = 2 ^ 52 * spacing (num / den) :=
      two_pow_log2 (by omega)
    have hquotient : 2 ^ (num / den).log2 ≤ num / den := Nat.log2_self_le hlog
    have hpow : (2 : Nat) ^ 53 * 2 ^ (k + 1) ≤ 2 ^ (num / den).log2 := by
      rw [← Nat.pow_add]
      exact Nat.pow_le_pow_right (by omega) (by omega)
    have hrounded : 2 ^ 52 ≤ roundQuotient num (den * spacing (num / den)) := by
      refine Nat.le_trans ?_ (le_roundQuotient _ _)
      rw [← Nat.div_div_eq_div_mul, Nat.le_div_iff_mul_le (spacing_pos _), ← hleading]
      exact hquotient
    have hunits := Nat.mul_le_mul_right (spacing (num / den)) hrounded
    have hnum : 2 ^ 53 * 2 ^ (k + 1) * den ≤ num :=
      (Nat.le_div_iff_mul_le hden).1 (Nat.le_trans hpow hquotient)
    have hproduct : 2 ^ 53 * 2 ^ (k + 1) * den = 2 ^ 53 * (den * 2 ^ (k + 1)) := by ring
    have hpositive := Nat.mul_pos hden (Nat.two_pow_pos (k + 1))
    omega

/-- The distance between the largest doubles, in units. -/
def topSpacing : Nat := 2 ^ (970 + 1074 + 1)

theorem bound_eq : bound = 2 ^ 53 * topSpacing := by
  rw [bound, topSpacing, ← Nat.pow_add]

theorem topSpacing_pos : 0 < topSpacing := by
  rw [topSpacing]
  generalize 970 + 1074 + 1 = exponent
  exact Nat.two_pow_pos exponent

/-- A quotient rounds into the range of doubles exactly if it lies below the midpoint between the
largest double and the first magnitude past it. -/
theorem nearestUnits_lt_bound_iff {num den : Nat} (hden : 0 < den) :
    nearestUnits num den < bound ↔ 2 * num < (2 ^ 54 - 1) * (den * topSpacing) := by
  rw [bound_eq, topSpacing, nearestUnits_lt_iff hden]

/-! ## Integers -/

/-- The first natural number that is too large for a double: the midpoint between the largest double
and the first magnitude past it. -/
def intLimit : Nat := (2 ^ 54 - 1) * 2 ^ 970

theorem one_pos : 0 < one := by
  rw [one]
  generalize 1074 = exponent
  exact Nat.two_pow_pos exponent

theorem limit_mul_topSpacing : (2 ^ 54 - 1) * topSpacing = 2 * (intLimit * one) := by
  have hpow : ∀ a b : Nat, (2 : Nat) ^ (a + b + 1) = 2 * 2 ^ a * 2 ^ b := fun a b => by
    rw [Nat.pow_succ', Nat.pow_add, Nat.mul_assoc]
  rw [topSpacing, hpow, ← one, intLimit, Nat.mul_assoc, Nat.mul_assoc, Nat.mul_left_comm]

/-- A quotient of integers has a double exactly if it lies below the limit. -/
theorem nearestUnits_int_lt_iff {num den : Nat} (hden : 0 < den) :
    nearestUnits (num * one) den < bound ↔ num < intLimit * den := by
  have hright : (2 ^ 54 - 1) * (den * topSpacing) = 2 * (intLimit * den * one) := by
    rw [Nat.mul_left_comm, limit_mul_topSpacing]
    ring
  rw [nearestUnits_lt_bound_iff hden, hright, Nat.mul_lt_mul_left Nat.two_pos,
    Nat.mul_lt_mul_right one_pos]

theorem ofRatio_of_lt {num den : Nat} (h : nearestUnits num den < bound) (negative : Bool) :
    ofRatio negative num den =
      .finite negative ⟨nearestUnits num den, nearestUnits_representable h⟩ :=
  dif_pos h

theorem ofRatio_of_not_lt {num den : Nat} (h : ¬ nearestUnits num den < bound) (negative : Bool) :
    ofRatio negative num den = .infinite negative :=
  dif_neg h

theorem isSome_ofInt?_iff (n : Int) : (ofInt? n).isSome = true ↔ n.natAbs < intLimit := by
  have hrange : nearestUnits (n.natAbs * one) 1 < bound ↔ n.natAbs < intLimit := by
    rw [nearestUnits_int_lt_iff Nat.one_pos, Nat.mul_one]
  rw [← hrange, ofInt?]
  by_cases h : nearestUnits (n.natAbs * one) 1 < bound
  · rw [ofRatio_of_lt h]
    exact iff_of_true rfl h
  · rw [ofRatio_of_not_lt h]
    exact iff_of_false Bool.false_ne_true h

theorem isSome_ofQuotient? {m n : Int} (hm : m.natAbs < intLimit) (hn : n ≠ 0) :
    (ofQuotient? m n).isSome = true := by
  have hpositive : 0 < n.natAbs := Int.natAbs_pos.2 hn
  have hlt : nearestUnits (m.natAbs * one) n.natAbs < bound := by
    rw [nearestUnits_int_lt_iff hpositive]
    exact Nat.lt_of_lt_of_le hm (Nat.le_mul_of_pos_right _ hpositive)
  rw [ofQuotient?, ofRatio_of_lt hlt]
  rfl

/-- A significand of 53 bits, shifted below a power of two, leaves room for one step before it. -/
theorem shifted_le_largest {significand shift k : Nat} (hsignificand : significand ≤ 2 ^ 53)
    (h : significand * 2 ^ shift < 2 ^ 53 * 2 ^ (k + 1)) :
    significand * 2 ^ shift ≤ (2 ^ 53 - 1) * 2 ^ (k + 1) := by
  obtain hsmall | hlarge : shift ≤ k ∨ k + 1 ≤ shift := by omega
  · have hspacing : (2 : Nat) * 2 ^ shift ≤ 2 ^ (k + 1) := by
      rw [← Nat.pow_succ']
      exact Nat.pow_le_pow_right Nat.two_pos (by omega)
    have hunits := Nat.mul_le_mul hsignificand hspacing
    rw [Nat.mul_left_comm] at hunits
    omega
  · obtain ⟨more, rfl⟩ := Nat.exists_eq_add_of_le hlarge
    rw [Nat.pow_add, Nat.mul_left_comm, Nat.mul_comm (2 ^ 53)] at h
    have hlt := Nat.lt_of_mul_lt_mul_left h
    have hunits := Nat.mul_le_mul_left (2 ^ (k + 1)) (Nat.le_sub_one_of_lt hlt)
    rw [Nat.pow_add, Nat.mul_left_comm significand]
    omega

/-- The largest double is one step below the first magnitude past it. -/
theorem Representable.le_largest {units : Nat} (h : Representable units) :
    units ≤ (2 ^ 53 - 1) * topSpacing := by
  obtain ⟨hbound, significand, shift, hsignificand, rfl⟩ := h
  rw [bound_eq, topSpacing] at hbound
  rw [topSpacing]
  exact shifted_le_largest hsignificand hbound

/-- The magnitudes of doubles lie below the limit. -/
theorem Representable.lt_limit {units : Nat} (h : Representable units) :
    units < intLimit * one := by
  refine Nat.lt_of_mul_lt_mul_left (a := 2) ?_
  rw [← limit_mul_topSpacing]
  have hle := h.le_largest
  have hpositive := topSpacing_pos
  generalize topSpacing = step at hle hpositive ⊢
  omega

theorem natAbs_lt_of_toInt? {x : Double} {n : Int} (h : x.toInt? = some n) :
    n.natAbs < intLimit := by
  cases x with
  | finite negative size =>
    have hunits := size.representable.lt_limit
    rw [toInt?] at h
    split at h
    · have hquotient : size.units / one < intLimit :=
        Nat.div_lt_of_lt_mul (by rwa [Nat.mul_comm] at hunits)
      obtain rfl := Option.some.inj h
      cases negative with
      | true => rwa [if_pos rfl, Int.natAbs_neg, Int.natAbs_natCast]
      | false => rwa [if_neg Bool.false_ne_true, Int.natAbs_natCast]
    · cases h
  | infinite => cases h
  | nan => cases h

theorem pow_lt_intLimit : 2 ^ 200 < intLimit := by decide +kernel

end Double

namespace Number

open Outcome

/-! ## Numbers that fit -/

/-- The size of a number as an integer; doubles have none. -/
def size : Number → Nat
  | .int n => n.natAbs
  | .double _ => 0

/-- Whether a number is no integer that is too large for a double. -/
def Fits (n : Number) : Prop := n.size < Double.intLimit

instance (n : Number) : Decidable n.Fits := inferInstanceAs (Decidable (n.size < _))

@[simp] theorem size_int (n : Int) : (Number.int n).size = n.natAbs := rfl

@[simp] theorem size_double (x : Double) : (Number.double x).size = 0 := rfl

@[simp] theorem size_abs (n : Number) : n.abs.size = n.size := by
  cases n with
  | int n => rw [abs, size_int, size_int, Int.natAbs_natCast]
  | double x => rfl

theorem fits_of_size_le {m n : Number} (h : m.size ≤ n.size) (hn : n.Fits) : m.Fits :=
  Nat.lt_of_le_of_lt h hn

theorem fits_of_size_lt {n : Number} (h : n.size < 2 ^ 200) : n.Fits :=
  h.trans Double.pow_lt_intLimit

theorem fits_natCast {n : Nat} (h : n < 2 ^ 64) : (Number.int n).Fits := by
  refine fits_of_size_lt ?_
  rw [size_int, Int.natAbs_natCast]
  exact h.trans (by decide)

theorem fits_double (x : Double) : (Number.double x).Fits :=
  fits_of_size_lt (Nat.two_pow_pos 200)

/-- An integer has a double exactly if it fits. -/
theorem yields_intToDouble_iff {n : Int} :
    ((intToDouble n).Yields fun _ => True) ↔ (Number.int n).Fits := by
  rw [Fits, size_int, ← Double.isSome_ofInt?_iff, intToDouble, Outcome.Yields]
  cases Double.ofInt? n with
  | none => simp [Outcome.ofOption]
  | some x => simp [Outcome.ofOption]

theorem yields_toDouble {n : Number} (h : n.Fits) : n.toDouble.Yields fun _ => True := by
  cases n with
  | int n => exact yields_intToDouble_iff.2 h
  | double x => exact yields_ok trivial

/-- An operation on numbers that fit has a result: that of the integers, or a double. -/
theorem yields_lift (onInts : Int → Int → Int) (onDoubles : Double → Double → Double)
    {m n : Number} (hm : m.Fits) (hn : n.Fits) :
    (lift onInts onDoubles m n).Yields fun r =>
      (∃ a b, m = .int a ∧ n = .int b ∧ r = .int (onInts a b)) ∨ ∃ x, r = .double x := by
  cases m with
  | int a =>
    cases n with
    | int b => exact yields_ok (.inl ⟨a, b, rfl, rfl, rfl⟩)
    | double y => exact (yields_intToDouble_iff.2 hm).map fun x _ => .inr ⟨onDoubles x y, rfl⟩
  | double x =>
    cases n with
    | int b => exact (yields_intToDouble_iff.2 hn).map fun y _ => .inr ⟨onDoubles x y, rfl⟩
    | double y => exact yields_ok (.inr ⟨onDoubles x y, rfl⟩)

theorem yields_add {m n : Number} (hm : m.Fits) (hn : n.Fits) :
    (m.add n).Yields fun r => r.size ≤ m.size + n.size := by
  refine (yields_lift (· + ·) Double.add hm hn).imp fun r hr => ?_
  obtain ⟨a, b, rfl, rfl, rfl⟩ | ⟨x, rfl⟩ := hr
  · simp only [size_int]
    omega
  · exact Nat.zero_le _

theorem yields_sub {m n : Number} (hm : m.Fits) (hn : n.Fits) :
    (m.sub n).Yields fun r => r.size ≤ m.size + n.size := by
  refine (yields_lift (· - ·) Double.sub hm hn).imp fun r hr => ?_
  obtain ⟨a, b, rfl, rfl, rfl⟩ | ⟨x, rfl⟩ := hr
  · simp only [size_int]
    omega
  · exact Nat.zero_le _

theorem yields_mul {m n : Number} (hm : m.Fits) (hn : n.Fits) :
    (m.mul n).Yields fun r => r.size ≤ m.size * n.size := by
  refine (yields_lift (· * ·) Double.mul hm hn).imp fun r hr => ?_
  obtain ⟨a, b, rfl, rfl, rfl⟩ | ⟨x, rfl⟩ := hr
  · simp only [size_int]
    rw [Int.natAbs_mul]
  · exact Nat.zero_le _

theorem yields_div {m n : Number} (hm : m.Fits) (hn : n.Fits) (hzero : n.isZero = false) :
    (m.div n).Yields fun _ => True := by
  have hdoubles : (do return (← m.toDouble).div (← n.toDouble) : Outcome Double).Yields
      fun _ => True :=
    (yields_toDouble hm).bind fun _ _ => (yields_toDouble hn).map fun _ _ => trivial
  cases m with
  | int a =>
    cases n with
    | int b =>
      obtain ⟨x, hx⟩ := Option.isSome_iff_exists.1
        (Double.isSome_ofQuotient? hm (of_decide_eq_false hzero))
      exact ⟨x, by rw [div, hx]; rfl, trivial⟩
    | double y => exact hdoubles
  | double x => cases n <;> exact hdoubles

theorem fits_integral {n : Number} (h : n.Fits) : n.integral.Fits := by
  cases n with
  | int n => exact h
  | double x =>
    rw [integral]
    split
    · next n hn => exact Double.natAbs_lt_of_toInt? hn
    · exact h

/-! ## Sums -/

theorem fits_of_mem {numbers : List Number} (h : (numbers.map size).sum < Double.intLimit)
    {n : Number} (hn : n ∈ numbers) : n.Fits :=
  Nat.lt_of_le_of_lt (List.single_le_sum (fun _ _ => Nat.zero_le _) _ (List.mem_map_of_mem hn)) h

/-- Numbers that fit all together can be read as doubles. -/
theorem yields_doubles {numbers : List Number} (h : (numbers.map size).sum < Double.intLimit) :
    (numbers.mapM toDouble).Yields fun _ => True := by
  have hdoubles : ∀ n ∈ numbers, n.toDouble.Yields fun _ => True := fun n hn =>
    yields_toDouble (fits_of_mem h hn)
  exact (yields_mapM hdoubles).imp fun _ _ => trivial

/-- A sum whose integers fit all together has a result that is no larger. -/
theorem yields_foldlM_add {numbers : List Number} {total : Number}
    (h : total.size + (numbers.map size).sum < Double.intLimit) :
    (numbers.foldlM add total).Yields fun r => r.size ≤ total.size + (numbers.map size).sum := by
  induction numbers generalizing total with
  | nil => exact yields_pure (Nat.le_add_right _ _)
  | cons n rest ih =>
    rw [List.map_cons, List.sum_cons] at h ⊢
    have htotal : total.Fits := Nat.lt_of_le_of_lt (Nat.le_add_right _ _) h
    have hn : n.Fits := Nat.lt_of_le_of_lt (by omega) h
    rw [List.foldlM_cons]
    refine (yields_add htotal hn).bind fun next hnext => ?_
    have hlater : next.size + (rest.map size).sum < Double.intLimit := by omega
    exact (ih hlater).imp fun r hr => by omega

theorem yields_sum {numbers : List Number} (h : (numbers.map size).sum < Double.intLimit) :
    (sum numbers).Yields Fits := by
  have hstart : (Number.int 0).size + (numbers.map size).sum < Double.intLimit := by
    rwa [size_int, Int.natAbs_zero, Nat.zero_add]
  exact (yields_foldlM_add hstart).imp fun r hr => Nat.lt_of_le_of_lt hr hstart

end Number

end Reporting
