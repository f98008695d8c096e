import Mathlib.Data.Nat.Dist
import Reporting.Proofs.ExactIntegers

/-!
# The nearest doubles

No double is nearer to a quotient than the one it rounds to (`Double.nearestUnits_nearest`), and of
two that are nearest it is the one with the even significand
(`Double.two_mul_spacing_dvd_nearestUnits`). So rounding keeps the order
(`Double.nearestUnits_mono`). The double nearest to an integer has no fraction, so it is an integer
itself, `Double.rounded`.
-/

namespace Reporting

namespace Double

/-! ## Nearest magnitudes -/

/-- No multiple of the divisor is nearer than the rounded one. -/
theorem roundQuotient_nearest {den : Nat} (num : Nat) (hden : 0 < den) (k : Nat) :
    Nat.dist num (roundQuotient num den * den) ≤ Nat.dist num (k * den) := by
  have hparts := Nat.div_add_mod' num den
  have hrest := Nat.mod_lt num hden
  have hside : k * den ≤ num / den * den ∨ num / den * den + den ≤ k * den := by
    obtain hlt | hle := Nat.lt_or_ge (num / den) k
    · refine .inr ?_
      rw [← Nat.succ_mul]
      exact Nat.mul_le_mul_right den hlt
    · exact .inl (Nat.mul_le_mul_right den hle)
  unfold Nat.dist
  obtain ⟨hround, hhalf⟩ | ⟨hround, hhalf⟩ := roundQuotient_cases num den <;> rw [hround]
  · omega
  · rw [Nat.succ_mul]
    omega

/-- A multiple that is as near as the rounded one leaves this one even. -/
theorem two_dvd_roundQuotient {num den k : Nat} (hden : 0 < den)
    (hother : k ≠ roundQuotient num den)
    (htie : Nat.dist num (k * den) = Nat.dist num (roundQuotient num den * den)) :
    2 ∣ roundQuotient num den := by
  have hparts := Nat.div_add_mod' num den
  have hrest := Nat.mod_lt num hden
  have hside : k * den + den ≤ num / den * den ∨ k = num / den ∨ k = num / den + 1 ∨
      num / den * den + 2 * den ≤ k * den := by
    obtain hlt | rfl | rfl | hgt :
        k < num / den ∨ k = num / den ∨ k = num / den + 1 ∨ num / den + 2 ≤ k := by omega
    · have hbelow := Nat.mul_le_mul_right den hlt
      rw [Nat.succ_mul] at hbelow
      exact .inl hbelow
    · exact .inr (.inl rfl)
    · exact .inr (.inr (.inl rfl))
    · have habove := Nat.mul_le_mul_right den hgt
      rw [Nat.add_mul] at habove
      exact .inr (.inr (.inr habove))
  have hsucc : (num / den + 1) * den = num / den * den + den := Nat.succ_mul _ _
  unfold Nat.dist at htie
  -- Away from the midpoint a single multiple is nearest.
  obtain ⟨hround, haway | ⟨-, heven⟩⟩ | ⟨hround, haway | ⟨-, heven⟩⟩ := roundQuotient_cases num den
  · rw [hround] at hother htie
    obtain hside | rfl | rfl | hside := hside <;> omega
  · rw [hround]
    exact Nat.dvd_of_mod_eq_zero heven
  · rw [hround] at hother htie
    obtain hside | rfl | rfl | hside := hside <;> omega
  · rw [hround]
    exact Nat.dvd_of_mod_eq_zero heven

/-- Some multiple of the distance between neighbours is at least as near as a given magnitude, and
is the magnitude itself if it is no nearer. -/
theorem exists_multiple_le {den significand : Nat} (num : Nat) (hden : 0 < den)
    (hsignificand : significand ≤ 2 ^ 53) (shift : Nat) :
    ∃ k, Nat.dist num (k * spacing (num / den) * den) ≤
        Nat.dist num (significand * 2 ^ shift * den) ∧
      (Nat.dist num (significand * 2 ^ shift * den) =
          Nat.dist num (k * spacing (num / den) * den) →
        significand * 2 ^ shift = k * spacing (num / den)) := by
  obtain hfine | hcoarse := Nat.lt_or_ge shift ((num / den).log2 - 52)
  · -- A finer magnitude is no larger than the power of two at or below the quotient.
    have hpositive : num / den ≠ 0 := by
      intro hzero
      rw [hzero, Nat.log2_zero] at hfine
      omega
    have hpower : 2 ^ (num / den).log2 = 2 ^ 52 * spacing (num / den) := two_pow_log2 (by omega)
    have hunits : significand * 2 ^ shift ≤ 2 ^ 52 * spacing (num / den) := by
      rw [← hpower]
      refine (Nat.mul_le_mul_right _ hsignificand).trans ?_
      rw [← Nat.pow_add]
      exact Nat.pow_le_pow_right Nat.two_pos (by omega)
    have hbelow : 2 ^ 52 * spacing (num / den) * den ≤ num := by
      rw [← hpower]
      exact (Nat.le_div_iff_mul_le hden).1 (Nat.log2_self_le hpositive)
    have hproduct := Nat.mul_le_mul_right den hunits
    unfold Nat.dist
    exact ⟨2 ^ 52, by omega, fun h => Nat.eq_of_mul_eq_mul_right hden (by omega)⟩
  · obtain ⟨more, hmore⟩ := Nat.exists_eq_add_of_le hcoarse
    have hunits : significand * 2 ^ shift = significand * 2 ^ more * spacing (num / den) := by
      rw [hmore, Nat.pow_add, spacing]
      ring
    exact ⟨significand * 2 ^ more, by rw [hunits], fun _ => hunits⟩

theorem mul_spacing_mul (k units den : Nat) :
    k * spacing units * den = k * (den * spacing units) := by
  ring

/-- **No double is nearer than the rounded one**, in units times the divisor. -/
theorem nearestUnits_nearest {den significand : Nat} (num : Nat) (hden : 0 < den)
    (hsignificand : significand ≤ 2 ^ 53) (shift : Nat) :
    Nat.dist num (nearestUnits num den * den) ≤
      Nat.dist num (significand * 2 ^ shift * den) := by
  obtain ⟨k, hle, -⟩ := exists_multiple_le num hden hsignificand shift
  refine Nat.le_trans ?_ hle
  rw [nearestUnits, mul_spacing_mul, mul_spacing_mul]
  exact roundQuotient_nearest num (Nat.mul_pos hden (spacing_pos _)) k

/-- **Of two doubles that are nearest the rounded one has the even significand.** -/
theorem two_mul_spacing_dvd_nearestUnits {num den significand shift : Nat} (hden : 0 < den)
    (hsignificand : significand ≤ 2 ^ 53) (hother : significand * 2 ^ shift ≠ nearestUnits num den)
    (htie : Nat.dist num (significand * 2 ^ shift * den) =
      Nat.dist num (nearestUnits num den * den)) :
    2 * spacing (nearestUnits num den) ∣ nearestUnits num den := by
  obtain ⟨k, hle, hmultiple⟩ := exists_multiple_le num hden hsignificand shift
  have hgrid := roundQuotient_nearest num (Nat.mul_pos hden (spacing_pos (num / den))) k
  rw [← mul_spacing_mul, ← mul_spacing_mul, ← nearestUnits] at hgrid
  have hunits := hmultiple (Nat.le_antisymm (htie ▸ hgrid) hle)
  rw [hunits, nearestUnits, mul_spacing_mul, mul_spacing_mul] at htie
  have heven : 2 ∣ roundQuotient num (den * spacing (num / den)) := by
    refine two_dvd_roundQuotient (Nat.mul_pos hden (spacing_pos _)) ?_ htie
    rintro rfl
    exact hother hunits
  have hfactor := Nat.mul_dvd_mul heven (Nat.dvd_refl (spacing (num / den)))
  obtain hless | hfull := Nat.lt_or_eq_of_le (roundQuotient_spacing_le num den)
  · exact (Nat.mul_dvd_mul_left 2 (spacing_dvd_two_pow hless _)).trans hfactor
  · -- The significand that is full counts as half of it, one place higher.
    rw [nearestUnits, hfull, spacing, spacing, ← Nat.pow_add, Nat.log2_two_pow, ← Nat.pow_succ']
    exact Nat.pow_dvd_pow 2 (by omega)

/-- **Rounding keeps the order.** -/
theorem nearestUnits_mono {m n den : Nat} (hden : 0 < den) (h : m ≤ n) :
    nearestUnits m den ≤ nearestUnits n den := by
  obtain rfl | hlt := Nat.eq_or_lt_of_le h
  · exact Nat.le_refl _
  · by_contra hswapped
    have hproduct := Nat.mul_lt_mul_of_pos_right (Nat.lt_of_not_le hswapped) hden
    have hm := nearestUnits_nearest m hden (roundQuotient_spacing_le n den)
      ((n / den).log2 - 52)
    have hn := nearestUnits_nearest n hden (roundQuotient_spacing_le m den)
      ((m / den).log2 - 52)
    rw [← spacing, ← nearestUnits] at hm hn
    unfold Nat.dist at hm hn
    omega

/-! ## Integers -/

theorem representable_of_le {n : Nat} (h : n ≤ 2 ^ 53) : Representable n :=
  ⟨Nat.lt_of_le_of_lt h (by decide +kernel), n, 0, h, (Nat.mul_one n).symm⟩

theorem nearestUnits_one {n : Nat} (h : Representable n) : nearestUnits n 1 = n := by
  have hround := nearestUnits_of_representable h Nat.one_pos
  rwa [Nat.mul_one] at hround

theorem roundQuotient_mul_right {factor : Nat} (hfactor : 0 < factor) (num den : Nat) :
    roundQuotient (num * factor) (den * factor) = roundQuotient num den := by
  have htwice : 2 * (num % den * factor) = 2 * (num % den) * factor := (Nat.mul_assoc _ _ _).symm
  simp only [roundQuotient, Nat.mul_div_mul_right _ _ hfactor, Nat.mul_mod_mul_right, htwice,
    Nat.mul_lt_mul_right hfactor]

theorem log2_mul_two_pow {n : Nat} (h : n ≠ 0) (k : Nat) : (n * 2 ^ k).log2 = n.log2 + k := by
  have hpositive := Nat.two_pow_pos k
  refine (Nat.log2_eq_iff (Nat.mul_ne_zero h hpositive.ne')).2 ⟨?_, ?_⟩
  · rw [Nat.pow_add]
    exact Nat.mul_le_mul_right _ (Nat.log2_self_le h)
  · rw [Nat.add_right_comm, Nat.pow_add]
    exact Nat.mul_lt_mul_of_pos_right Nat.lt_log2_self hpositive

/-- The double nearest to an integer has no fraction. -/
theorem nearestUnits_mul_one (n : Nat) : nearestUnits (n * one) 1 = nearestUnits n 1 * one := by
  obtain hlarge | hsmall := Nat.lt_or_ge (2 ^ 53) n
  · have hlog : 53 ≤ n.log2 := (Nat.le_log2 (by omega)).2 hlarge.le
    have hspacing : spacing (n * one) = spacing n * one := by
      rw [spacing, spacing, one, log2_mul_two_pow (by omega), ← Nat.pow_add]
      congr 1
      omega
    rw [nearestUnits, nearestUnits, Nat.div_one, Nat.div_one, Nat.one_mul, Nat.one_mul, hspacing,
      roundQuotient_mul_right one_pos, Nat.mul_assoc]
  · rw [nearestUnits_one (representable_mul_one hsmall),
      nearestUnits_one (representable_of_le hsmall)]

/-- The integer that the double nearest to an integer equals. -/
def rounded (n : Int) : Int :=
  if n < 0 then -(nearestUnits n.natAbs 1 : Int) else nearestUnits n.natAbs 1

theorem rounded_of_representable {n : Int} (h : Representable n.natAbs) : rounded n = n := by
  rw [rounded, nearestUnits_one h]
  split <;> omega

theorem rounded_mono {m n : Int} (h : m ≤ n) : rounded m ≤ rounded n := by
  unfold rounded
  split
  · split
    · have := nearestUnits_mono Nat.one_pos (show n.natAbs ≤ m.natAbs by omega)
      omega
    · omega
  · have := nearestUnits_mono Nat.one_pos (show m.natAbs ≤ n.natAbs by omega)
    rw [if_neg (by omega)]
    omega

theorem exists_ofInt?_rounded {n : Int} (h : n.natAbs < intLimit) :
    ∃ x, ofInt? n = some x ∧ x.toInt? = some (rounded n) := by
  have hlt : nearestUnits (n.natAbs * one) 1 < bound := by
    rwa [nearestUnits_int_lt_iff Nat.one_pos, Nat.mul_one]
  refine ⟨_, by rw [ofInt?, ofRatio_of_lt hlt]; rfl, ?_⟩
  simp only [toInt?, nearestUnits_mul_one, Nat.mul_mod_left, if_true, Nat.mul_div_cancel _ one_pos,
    decide_eq_true_eq, rounded]

/-- No finite double is nearer to an integer than the one it rounds to. -/
theorem rounded_nearest (n : Int) (negative : Bool) (size : Magnitude) :
    (rounded n * one - n * one).natAbs ≤ (signed negative size - n * one).natAbs := by
  obtain ⟨-, significand, shift, hsignificand, hunits⟩ := size.representable
  have hnearest := nearestUnits_nearest (n.natAbs * one) Nat.one_pos hsignificand shift
  have hzero := nearestUnits_nearest (n.natAbs * one) Nat.one_pos (Nat.zero_le _) 0
  rw [← hunits, nearestUnits_mul_one] at hnearest
  rw [nearestUnits_mul_one] at hzero
  unfold Nat.dist at hnearest hzero
  unfold rounded signed
  generalize one = unit at *
  generalize nearestUnits n.natAbs 1 = nearest at *
  obtain ⟨k, rfl | rfl⟩ := Int.eq_nat_or_neg n
  · simp only [Int.natAbs_natCast] at hnearest hzero
    rw [if_neg (by omega), ← Int.natCast_mul, ← Int.natCast_mul]
    split <;> omega
  · simp only [Int.natAbs_neg, Int.natAbs_natCast] at hnearest hzero
    split
    · rw [Int.neg_mul, Int.neg_mul, ← Int.natCast_mul, ← Int.natCast_mul]
      split <;> omega
    · obtain rfl : k = 0 := by omega
      rw [Nat.zero_mul] at hzero
      have hnone : nearest * unit = 0 := by omega
      rw [← Int.natCast_mul, hnone]
      simp

end Double

/-- The double nearest to an integer that has one. -/
theorem Number.exists_intToDouble_rounded {n : Int} (h : n.natAbs < Double.intLimit) :
    ∃ x, intToDouble n = .ok x ∧ x.toInt? = some (Double.rounded n) := by
  obtain ⟨x, hx, hn⟩ := Double.exists_ofInt?_rounded h
  exact ⟨x, by rw [intToDouble, hx]; rfl, hn⟩

end Reporting
