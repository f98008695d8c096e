import Reporting.Proofs.DoubleRange
import Reporting.Value.Projection

/-!
# Integers that are doubles

Rounding keeps the magnitudes of doubles (`Double.nearestUnits_of_representable`). Integers up to
`2 ^ 53` are such magnitudes, so they come back from their doubles (`Double.exists_ofInt?`),
and operations on doubles are exact as long as they stay among them (`Double.toInt?_add`).
-/

namespace Reporting

namespace Double

theorem roundQuotient_mul {den : Nat} (hden : 0 < den) (n : Nat) :
    roundQuotient (n * den) den = n := by
  have hrest : 2 * (n * den % den) < den := by rwa [Nat.mul_mod_left, Nat.mul_zero]
  rw [roundQuotient, if_pos hrest, Nat.mul_div_cancel _ hden]

/-- The highest digit of a significand of 53 bits is at most 52 places above its shift. -/
theorem spacing_dvd_two_pow {significand : Nat} (h : significand < 2 ^ 53) (shift : Nat) :
    spacing (significand * 2 ^ shift) ∣ 2 ^ shift := by
  refine Nat.pow_dvd_pow 2 ?_
  obtain hzero | hpositive := Nat.eq_zero_or_pos (significand * 2 ^ shift)
  · rw [hzero, Nat.log2_zero]
    exact Nat.zero_le shift
  · have hbelow : significand * 2 ^ shift < 2 ^ (53 + shift) := by
      rw [Nat.pow_add]
      exact Nat.mul_lt_mul_of_pos_right h (Nat.two_pow_pos shift)
    have hlog := (Nat.log2_lt hpositive.ne').2 hbelow
    omega

/-- A magnitude is a multiple of the distance to its neighbours. -/
theorem Representable.spacing_dvd {units : Nat} (h : Representable units) :
    spacing units ∣ units := by
  obtain ⟨-, significand, shift, hsignificand, rfl⟩ := h
  obtain hless | rfl := Nat.lt_or_eq_of_le hsignificand
  · exact Nat.dvd_mul_left_of_dvd (spacing_dvd_two_pow hless shift) significand
  · rw [spacing, ← Nat.pow_add, Nat.log2_two_pow]
    exact Nat.pow_dvd_pow 2 (Nat.sub_le _ _)

/-- **Rounding keeps the magnitudes of doubles.** -/
theorem nearestUnits_of_representable {units den : Nat} (h : Representable units)
    (hden : 0 < den) : nearestUnits (units * den) den = units := by
  obtain ⟨count, hcount⟩ := h.spacing_dvd
  have hproduct : units * den = count * (den * spacing units) :=
    calc units * den = spacing units * count * den := by rw [← hcount]
      _ = count * (den * spacing units) := by ring
  rw [nearestUnits, Nat.mul_div_cancel _ hden, hproduct,
    roundQuotient_mul (Nat.mul_pos hden (spacing_pos units)), Nat.mul_comm, ← hcount]

theorem ofRatio_units {den : Nat} (size : Magnitude) (hden : 0 < den) (negative : Bool) :
    ofRatio negative (size.units * den) den = .finite negative size := by
  have hround := nearestUnits_of_representable size.representable hden
  have hlt : nearestUnits (size.units * den) den < bound := by
    rw [hround]
    exact size.representable.1
  rw [ofRatio_of_lt hlt]
  simp only [hround]

/-! ## Integers up to `2 ^ 53` -/

theorem representable_mul_one {n : Nat} (h : n ≤ 2 ^ 53) : Representable (n * one) :=
  ⟨Nat.lt_of_le_of_lt (Nat.mul_le_mul_right one h) (by decide +kernel), n, 1074, h, rfl⟩

/-- The double of an integer that is as many ones as a magnitude has that magnitude. -/
theorem ofInt?_of_units {n : Int} {size : Magnitude} (h : size.units = n.natAbs * one) :
    ofInt? n = some (.finite (n < 0) size) := by
  have hsize : ofRatio (n < 0) (n.natAbs * one) 1 = .finite (n < 0) size := by
    rw [← h, ← ofRatio_units size Nat.one_pos, Nat.mul_one]
  rw [ofInt?, hsize]
  rfl

theorem toInt?_of_units {n : Int} {size : Magnitude} (h : size.units = n.natAbs * one) :
    (finite (n < 0) size).toInt? = some n := by
  rw [toInt?, h, if_pos (Nat.mul_mod_left _ _), Nat.mul_div_cancel _ one_pos]
  refine congrArg some ?_
  by_cases hnegative : n < 0
  · rw [if_pos (decide_eq_true hnegative)]
    omega
  · rw [if_neg (by simpa using hnegative)]
    omega

/-- The double nearest to an integer up to `2 ^ 53` is the integer. -/
theorem exists_ofInt? {n : Int} (h : n.natAbs ≤ 2 ^ 53) :
    ∃ x, ofInt? n = some x ∧ x.toInt? = some n := by
  let size : Magnitude := ⟨n.natAbs * one, representable_mul_one h⟩
  exact ⟨.finite (n < 0) size, ofInt?_of_units rfl, toInt?_of_units rfl⟩

/-! ## Arithmetic on integers -/

/-- A double that is an integer. -/
abbrev IsInt (x : Double) (n : Int) : Prop := x.toInt? = some n

theorem toInt?_eq_some_iff {x : Double} {n : Int} :
    x.toInt? = some n ↔ ∃ negative size k, x = .finite negative size ∧ size.units = k * one ∧
      n = if negative then -(k : Int) else k := by
  constructor
  · intro h
    cases x with
    | finite negative size =>
      rw [toInt?] at h
      split at h
      · next hwhole =>
        refine ⟨negative, size, size.units / one, rfl, ?_, (Option.some.inj h).symm⟩
        exact (Nat.div_mul_cancel (Nat.dvd_of_mod_eq_zero hwhole)).symm
      · cases h
    | infinite | nan => cases h
  · rintro ⟨negative, size, k, rfl, hunits, rfl⟩
    rw [toInt?, hunits, if_pos (Nat.mul_mod_left k one), Nat.mul_div_cancel k one_pos]

theorem signed_of_toInt? {negative : Bool} {size : Magnitude} {n : Int}
    (h : (finite negative size).toInt? = some n) : signed negative size = n * one := by
  obtain ⟨_, _, k, heq, hunits, rfl⟩ := toInt?_eq_some_iff.1 h
  obtain ⟨rfl, rfl⟩ := Double.finite.inj heq
  rw [signed, hunits]
  generalize one = unit
  cases negative <;> simp

/-- A double is an integer exactly if it is as many ones. -/
theorem toInt?_finite_iff {negative : Bool} {size : Magnitude} {n : Int} :
    (finite negative size).toInt? = some n ↔ signed negative size = n * one := by
  refine ⟨signed_of_toInt?, fun h => ?_⟩
  have hunits : size.units = n.natAbs * one := by
    have hsize := congrArg Int.natAbs h
    rw [Int.natAbs_mul, Int.natAbs_natCast] at hsize
    rw [← hsize, signed]
    split <;> omega
  refine toInt?_eq_some_iff.2 ⟨negative, size, n.natAbs, rfl, hunits, ?_⟩
  rw [signed, hunits, Nat.cast_mul, ← Int.neg_mul, ← ite_mul] at h
  exact (Int.eq_of_mul_eq_mul_right (Int.natCast_ne_zero.2 one_pos.ne') h).symm

theorem toInt?_ofRatio {k den : Nat} (hk : k ≤ 2 ^ 53) (hden : 0 < den) (negative : Bool) :
    (ofRatio negative (k * one * den) den).toInt? = some (if negative then -(k : Int) else k) :=
  toInt?_eq_some_iff.2 ⟨negative, ⟨k * one, representable_mul_one hk⟩, k,
    ofRatio_units ⟨k * one, representable_mul_one hk⟩ hden negative, rfl, rfl⟩

theorem compare_mul_one (m n : Int) : compare (m * one) (n * one) = compare m n := by
  have hmono : StrictMono fun n : Int => n * one :=
    fun _ _ h => Int.mul_lt_mul_of_pos_right h (Int.natCast_pos.2 one_pos)
  rw [← cmp_eq_compare, ← cmp_eq_compare]
  exact hmono.cmp_map_eq m n

variable {x y : Double} {m n : Int}

theorem compare?_of_toInt? (hx : x.toInt? = some m) (hy : y.toInt? = some n) :
    x.compare? y = some (compare m n) := by
  obtain ⟨s, a, _, rfl, -⟩ := toInt?_eq_some_iff.1 hx
  obtain ⟨t, b, _, rfl, -⟩ := toInt?_eq_some_iff.1 hy
  rw [compare?, signed_of_toInt? hx, signed_of_toInt? hy, compare_mul_one]

theorem toInt?_zero (negative : Bool) : (zero negative).toInt? = some 0 :=
  toInt?_eq_some_iff.2 ⟨negative, .zero, 0, rfl, (Nat.zero_mul one).symm, by simp⟩

theorem toInt?_neg (h : x.toInt? = some n) : x.neg.toInt? = some (-n) := by
  obtain ⟨negative, size, k, rfl, hunits, rfl⟩ := toInt?_eq_some_iff.1 h
  refine toInt?_eq_some_iff.2 ⟨!negative, size, k, rfl, hunits, ?_⟩
  cases negative <;> simp

/-- Sums of integers are exact as long as they are no larger than `2 ^ 53`. -/
theorem toInt?_add (hx : x.toInt? = some m) (hy : y.toInt? = some n)
    (h : (m + n).natAbs ≤ 2 ^ 53) : (x.add y).toInt? = some (m + n) := by
  obtain ⟨s, a, _, rfl, -⟩ := toInt?_eq_some_iff.1 hx
  obtain ⟨t, b, _, rfl, -⟩ := toInt?_eq_some_iff.1 hy
  have htotal : signed s a + signed t b = (m + n) * one := by
    rw [signed_of_toInt? hx, signed_of_toInt? hy, Int.add_mul]
  have hone : (0 : Int) < one := Int.natCast_pos.2 one_pos
  simp only [add, htotal]
  split
  · next hzero =>
    obtain hsum | hone' := Int.mul_eq_zero.1 hzero
    · rw [toInt?_zero, hsum]
    · exact absurd hone' hone.ne'
  · have hsign : decide ((m + n) * (one : Int) < 0) = decide (m + n < 0) := by
      rw [decide_eq_decide, Int.mul_neg_iff]
      omega
    have hround := toInt?_ofRatio h Nat.one_pos (m + n < 0)
    rw [Nat.mul_one] at hround
    rw [Int.natAbs_mul, Int.natAbs_natCast, hsign, hround]
    simp only [decide_eq_true_eq, Option.some.injEq]
    split <;> omega

theorem toInt?_sub (hx : x.toInt? = some m) (hy : y.toInt? = some n)
    (h : (m - n).natAbs ≤ 2 ^ 53) : (x.sub y).toInt? = some (m - n) :=
  toInt?_add hx (toInt?_neg hy) h

theorem toInt?_mul (hx : x.toInt? = some m) (hy : y.toInt? = some n)
    (h : (m * n).natAbs ≤ 2 ^ 53) : (x.mul y).toInt? = some (m * n) := by
  obtain ⟨s, a, j, rfl, ha, rfl⟩ := toInt?_eq_some_iff.1 hx
  obtain ⟨t, b, k, rfl, hb, rfl⟩ := toInt?_eq_some_iff.1 hy
  have hproduct : j * one * (k * one) = j * k * one * one := by ring
  have hsize : j * k ≤ 2 ^ 53 := by
    cases s <;> cases t <;> simpa [Int.natAbs_mul] using h
  rw [mul, ha, hb, hproduct, toInt?_ofRatio hsize one_pos]
  cases s <;> cases t <;> simp

/-- Multiples of integers are exact as long as they are no larger than `2 ^ 53`; of zero even those
whose count is larger. -/
theorem toInt?_mul_ofNat {count : Nat} (hx : x.toInt? = some n) (hcount : count < 2 ^ 64)
    (h : (n * count).natAbs ≤ 2 ^ 53) : (x.mul (ofNat count)).toInt? = some (n * count) := by
  obtain hsmall | hlarge : count ≤ 2 ^ 53 ∨ 2 ^ 53 < count := by omega
  · have hround := toInt?_ofRatio hsmall Nat.one_pos false
    rw [Nat.mul_one] at hround
    exact toInt?_mul hx hround h
  · have hzero : n = 0 := by
      rw [Int.natAbs_mul, Int.natAbs_natCast] at h
      by_contra hne
      have hpositive : 0 < n.natAbs := Int.natAbs_pos.2 hne
      have hle := Nat.le_mul_of_pos_left count hpositive
      omega
    obtain ⟨s, a, k, rfl, ha, hk⟩ := toInt?_eq_some_iff.1 hx
    have hk : k = 0 := by
      rw [hzero] at hk
      cases s <;> simpa using hk.symm
    have hfinite : nearestUnits (count * one) 1 < bound := by
      rw [nearestUnits_int_lt_iff Nat.one_pos, Nat.mul_one]
      exact (hcount.trans (by decide)).trans pow_lt_intLimit
    have hround := toInt?_ofRatio (Nat.zero_le (2 ^ 53)) one_pos (s != false)
    rw [ofNat, ofRatio_of_lt hfinite, mul, ha, hk, Nat.zero_mul, Nat.zero_mul, hzero, Int.zero_mul]
    rw [Nat.zero_mul, Nat.zero_mul] at hround
    rw [hround]
    simp

end Double

/-- The sum over a part of integers is no larger than all of them together. -/
theorem natAbs_sum_le_of_sublist {part ns : List Int} (h : part.Sublist ns) :
    part.sum.natAbs ≤ (ns.map Int.natAbs).sum :=
  (List.le_sum_of_subadditive Int.natAbs Int.natAbs_zero.le Int.natAbs_add_le part).trans
    ((h.map Int.natAbs).sum_le_sum fun _ _ => Nat.zero_le _)

theorem natAbs_le_sum_of_mem {n : Int} {ns : List Int} (h : n ∈ ns) :
    n.natAbs ≤ (ns.map Int.natAbs).sum :=
  List.single_le_sum (fun _ _ => Nat.zero_le _) _ (List.mem_map_of_mem h)

/-- The number of an integer cell is its integer if this has a double. -/
theorem Value.toNumber_int {n : Int} (h : (Number.int n).Fits) :
    (int n).toNumber = .ok (.int n) := by
  obtain ⟨x, hx, -⟩ := Number.yields_intToDouble_iff.2 h
  rw [int, toNumber, hx]
  rfl

theorem Number.fits_int {n : Int} (h : n.natAbs ≤ 2 ^ 64) : (int n).Fits :=
  fits_of_size_lt (Nat.lt_of_le_of_lt h (by decide))

end Reporting
