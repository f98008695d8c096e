import Mathlib.Tactic.FieldSimp
import Mathlib.Tactic.Positivity
import Reporting.Proofs.Numerals
import Reporting.Proofs.RationalRounding
import Reporting.Value.Projection

/-!
# The values of numerals

A numeral stands for a rational number, and is read as the double nearest to it
(`Numeral.toDouble_nearest`). A text is read as its longest numeral is, commas and leading blanks
aside, and as zero if it has none or if the nearest double overflows (`Value.toNumber_text`).
-/

namespace Reporting

theorem Text.foldl_digits (digits : List Char) (n : Nat) :
    digits.foldl (fun n c => 10 * n + (digitValue? c).getD 0) n =
      n * 10 ^ digits.length + digitsValue digits := by
  induction digits generalizing n with
  | nil => simp [digitsValue]
  | cons c rest ih =>
    rw [digitsValue, List.foldl_cons, List.foldl_cons, ih, ih, List.length_cons, Nat.pow_succ]
    ring

theorem Text.digitsValue_append (front back : List Char) :
    digitsValue (front ++ back) = digitsValue front * 10 ^ back.length + digitsValue back := by
  rw [digitsValue, List.foldl_append, foldl_digits, ← digitsValue]

/-- The rational number that a numeral stands for. -/
def Numeral.value (n : Numeral) : ℚ :=
  (if n.sign = some '-' then -1 else 1) *
    (Text.digitsValue n.whole +
      Text.digitsValue (n.fraction.getD []) / 10 ^ (n.fraction.getD []).length) *
    10 ^ exponentValue n.exponent

theorem Numeral.abs_value (n : Numeral) : |n.value| = n.coefficient * 10 ^ n.scale := by
  have hsign : |if n.sign = some '-' then (-1 : ℚ) else 1| = 1 := by split <;> simp
  have hpower : (0 : ℚ) < 10 ^ (n.fraction.getD []).length := by positivity
  have hdigits : (n.coefficient : ℚ) = (Text.digitsValue n.whole +
      Text.digitsValue (n.fraction.getD []) / 10 ^ (n.fraction.getD []).length) *
        10 ^ (n.fraction.getD []).length := by
    rw [coefficient, Text.digitsValue_append]
    push_cast
    field_simp
  have hnonneg : (0 : ℚ) ≤ Text.digitsValue n.whole +
      Text.digitsValue (n.fraction.getD []) / 10 ^ (n.fraction.getD []).length := by positivity
  have hshift : (0 : ℚ) ≤ 10 ^ exponentValue n.exponent := by positivity
  rw [value, abs_mul, abs_mul, hsign, one_mul, abs_of_nonneg hnonneg, abs_of_nonneg hshift,
    hdigits, scale, zpow_sub₀ (by norm_num), zpow_natCast]
  field_simp

/-- **A numeral is read as the double nearest to its value**, unless this overflows. -/
theorem Numeral.toDouble_nearest (n : Numeral) :
    Double.Overflows |n.value| ∧ n.toDouble = .infinite (n.sign = some '-') ∨
      ¬ Double.Overflows |n.value| ∧ ∃ size : Double.Magnitude, size.IsNearest |n.value| ∧
        n.toDouble = .finite (n.sign = some '-') size := by
  rw [abs_value]
  exact Double.ofDecimal_nearest _ _ _

namespace Value

/-- The characters that a number is read from: those that are no commas, without the blanks in
front of them. -/
def numeralChars (s : String) : List Char := Text.trimLeft (s.toList.filter (· ≠ ','))

theorem textToNumber_of_none {s : String} (h : Numeral.scan? (numeralChars s) = none) :
    textToNumber s = .int 0 := by
  rw [numeralChars] at h
  simp only [textToNumber, h]

theorem textToNumber_of_some {s : String} {n : Numeral} {rest : List Char}
    (h : Numeral.scan? (numeralChars s) = some (n, rest)) :
    textToNumber s = if n.toDouble.isFinite then .double n.toDouble else .int 0 := by
  rw [numeralChars] at h
  simp only [textToNumber, h]

/-- **A text is read as the double nearest to the longest numeral that starts it**, commas and
leading blanks aside, and as zero if no numeral does or if the nearest double overflows. -/
theorem toNumber_text (s : String) :
    (∀ n : Numeral, ¬ n.Starts (numeralChars s)) ∧ (text s).toNumber = .ok (.int 0) ∨
    ∃ n : Numeral, (∀ m : Numeral, m.IsLongestIn (numeralChars s) ↔ m = n) ∧
      (Double.Overflows |n.value| ∧ (text s).toNumber = .ok (.int 0) ∨
        ¬ Double.Overflows |n.value| ∧ ∃ size : Double.Magnitude,
          (∀ other : Double.Magnitude, other.IsNearest |n.value| ↔ other = size) ∧
          (text s).toNumber = .ok (.double (.finite (n.sign = some '-') size))) := by
  cases hscan : Numeral.scan? (numeralChars s) with
  | none =>
    rw [toNumber, textToNumber_of_none hscan]
    exact .inl ⟨Numeral.scan?_eq_none_iff.1 hscan, rfl⟩
  | some found =>
    obtain ⟨n, rest⟩ := found
    rw [toNumber, textToNumber_of_some hscan]
    refine .inr ⟨n, fun m => ?_, ?_⟩
    · rw [Numeral.isLongestIn_iff, hscan]
      constructor
      · rintro ⟨_, h⟩
        exact (congrArg Prod.fst (Option.some.inj h)).symm
      · rintro rfl
        exact ⟨rest, rfl⟩
    · obtain ⟨hover, hdouble⟩ | ⟨hrange, size, hnearest, hdouble⟩ := n.toDouble_nearest
      · rw [hdouble]
        exact .inl ⟨hover, rfl⟩
      · rw [hdouble]
        refine .inr ⟨hrange, size, fun other => ⟨fun h => h.unique hnearest, ?_⟩, rfl⟩
        rintro rfl
        exact hnearest

example : (text " -1,200.5e+ kg").toNumber =
    .ok (.double (Double.ofDecimal true 12005 (-1))) := by decide +kernel

end Value

end Reporting
