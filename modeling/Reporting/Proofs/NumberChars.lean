import Reporting.Value.Projection

/-!
# The characters of numbers

An integer is written with digits and a minus sign, and its digits tell which integer it is
(`Value.intChars_inj`). A double is written with a point or an exponent besides
(`Double.Layout.point_or_mark_mem_text`). Characters other than letters, digits, signs and points
are in no number (`Value.not_mem_numberChars`).
-/

namespace Reporting

variable {c : Char}

namespace Text

/-- A character that no number is written with. -/
def IsForeign (c : Char) : Prop := c.isAlphanum = false ∧ c ∉ ['+', '-', '.']

instance (c : Char) : Decidable (IsForeign c) := inferInstanceAs (Decidable (_ ∧ _))

theorem IsForeign.isDigit (hc : IsForeign c) : c.isDigit = false := by
  have halphanum := hc.1
  rw [Char.isAlphanum, Bool.or_eq_false_iff] at halphanum
  exact halphanum.2

theorem IsForeign.ne {d : Char} (hc : IsForeign c) (hd : ¬IsForeign d) : c ≠ d :=
  fun e => hd (e ▸ hc)

/-! ## Digits -/

theorem not_mem_toDigits (hc : c.isDigit = false) (n : Nat) : c ∉ Nat.toDigits 10 n := by
  intro hmem
  rw [Nat.isDigit_of_mem_toDigits (by decide) (by decide) hmem] at hc
  cases hc

theorem not_mem_replicate_zero (hc : c.isDigit = false) (count : Nat) :
    c ∉ List.replicate count '0' := by
  intro hmem
  rw [List.eq_of_mem_replicate hmem] at hc
  cases hc

theorem not_mem_padded (hc : c.isDigit = false) (width n : Nat) : c ∉ padded 10 width n := by
  rw [padded, List.mem_append, not_or]
  exact ⟨not_mem_replicate_zero hc _, not_mem_toDigits hc n⟩

theorem not_mem_dropTrailingZeros {digits : List Char} (h : c ∉ digits) :
    c ∉ dropTrailingZeros digits := by
  rw [dropTrailingZeros, List.mem_reverse]
  exact fun hmem => h (List.mem_reverse.1 ((List.dropWhile_sublist _).subset hmem))

theorem toDigits_inj {m n : Nat} : Nat.toDigits 10 m = Nat.toDigits 10 n ↔ m = n := by
  refine ⟨fun h => ?_, congrArg _⟩
  have hvalue := congrArg (Nat.ofDigitChars 10 · 0) h
  simpa only [Nat.ofDigitChars_ten_toDigits] using hvalue

end Text

/-! ## Doubles -/

namespace Double.Layout

variable {layout : Layout}

theorem not_mem_digits (hc : Text.IsForeign c) {digits : List Char} (h : c ∉ digits)
    (leading : Int) : c ∉ layout.digits digits leading := by
  have htake : ∀ count, c ∉ digits.take count := fun count hmem => h (List.mem_of_mem_take hmem)
  have hdrop : ∀ count, c ∉ digits.drop count := fun count hmem => h (List.mem_of_mem_drop hmem)
  have hpadded := Text.not_mem_padded hc.isDigit layout.exponentDigits leading.natAbs
  have hzeros := Text.not_mem_replicate_zero hc.isDigit
  have hzero : c ≠ '0' := hc.ne (by decide)
  have hmark : c ≠ 'e' := hc.ne (by decide)
  have hpoint : c ≠ '.' := hc.ne (by decide)
  have hsign : c ≠ if leading < 0 then '-' else '+' := by
    split <;> exact hc.ne (by decide)
  unfold Layout.digits
  split
  · split
    · simp only [List.mem_append, List.mem_cons, not_or]
      exact ⟨⟨hzero, hpoint, hzeros _⟩, h⟩
    · simp only [List.mem_append, List.mem_cons, not_or]
      refine ⟨⟨htake _, hzeros _⟩, hpoint, ?_⟩
      split
      · simpa using hzero
      · exact hdrop _
  · simp only [List.mem_append, List.mem_cons, not_or]
    refine ⟨⟨htake _, ?_⟩, hmark, hsign, hpadded⟩
    split
    · exact List.not_mem_nil
    · rw [List.mem_cons, not_or]
      exact ⟨hpoint, hdrop _⟩

theorem not_mem_text (hc : Text.IsForeign c) (hinfinity : c ∉ layout.infinity)
    (hnan : c ∉ layout.notANumber) (x : Double) : c ∉ layout.text x := by
  have hsign : ∀ s : Bool, c ∉ if s then ['-'] else [] := by
    intro s
    cases s
    · exact List.not_mem_nil
    · simpa using hc.ne (by decide)
  cases x with
  | finite s a =>
    rw [text, List.mem_append, not_or]
    refine ⟨hsign s, ?_⟩
    split
    · exact not_mem_digits hc (Text.not_mem_toDigits hc.isDigit 0) 0
    · exact not_mem_digits hc
        (Text.not_mem_dropTrailingZeros (Text.not_mem_toDigits hc.isDigit _)) _
  | infinite s =>
    rw [text, List.mem_append, not_or]
    exact ⟨hsign s, hinfinity⟩
  | nan => exact hnan

theorem point_or_mark_mem (digits : List Char) (leading : Int) :
    '.' ∈ layout.digits digits leading ∨ 'e' ∈ layout.digits digits leading := by
  unfold Layout.digits
  split
  · left
    split <;> simp
  · right
    simp

/-- A finite double is written with a point, or with the mark of an exponent. -/
theorem point_or_mark_mem_text (layout : Layout) (s : Bool) (a : Magnitude) :
    '.' ∈ layout.text (.finite s a) ∨ 'e' ∈ layout.text (.finite s a) := by
  rw [text, List.mem_append, List.mem_append]
  by_cases hzero : a.units = 0
  · rw [if_pos hzero]
    exact (point_or_mark_mem _ _).imp .inr .inr
  · rw [if_neg hzero]
    exact (point_or_mark_mem _ _).imp .inr .inr

end Double.Layout

/-! ## Numbers -/

namespace Value

theorem not_mem_intChars (hdigit : c.isDigit = false) (hminus : c ≠ '-') (n : Int) :
    c ∉ intChars n := by
  rw [intChars]
  split
  · rw [List.mem_cons, not_or]
    exact ⟨hminus, Text.not_mem_toDigits hdigit _⟩
  · exact Text.not_mem_toDigits hdigit _

/-- **No number is written with a character that is neither a letter or digit nor a sign or a
point.** -/
theorem not_mem_numberChars (hc : Text.IsForeign c) (n : Number) : c ∉ numberChars n := by
  cases n with
  | int n => exact not_mem_intChars hc.isDigit (hc.ne (by decide)) n
  | double x =>
    have hletters : ∀ d ∈ ['i', 'n', 'f', 'a'], c ≠ d := by
      intro d hd
      refine hc.ne ?_
      simp only [List.mem_cons, List.not_mem_nil, or_false] at hd
      obtain rfl | rfl | rfl | rfl := hd <;> decide
    refine Double.Layout.not_mem_text hc ?_ ?_ x <;> simp [doubleLayout, hletters]

/-- **The digits and the sign of an integer tell which one it is.** -/
theorem intChars_inj {m n : Int} : intChars m = intChars n ↔ m = n := by
  refine ⟨fun h => ?_, congrArg _⟩
  have hminus : ∀ k : Nat, ∀ rest, Nat.toDigits 10 k ≠ '-' :: rest := fun k rest e =>
    Text.not_mem_toDigits (by decide) k (e ▸ List.mem_cons_self)
  rw [intChars, intChars] at h
  split at h
  · split at h
    · have hsize := Text.toDigits_inj.1 (List.cons.inj h).2
      omega
    · exact absurd h.symm (hminus _ _)
  · split at h
    · exact absurd h (hminus _ _)
    · have hsize := Text.toDigits_inj.1 h
      omega

end Value

end Reporting
