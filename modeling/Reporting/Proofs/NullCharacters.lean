import Reporting.Text.LowerCase

/-!
# Null characters

Only a text that has a null character itself is compared by a text with one: lower case brings none
in (`Text.null_not_mem_lower`), and no number is written with one (`Value.not_mem_numberChars`).
-/

namespace Reporting

namespace Text

theorem contains_null {s : String} (h : Char.ofNat 0 ∉ s.toList) :
    s.contains (Char.ofNat 0) = false := by
  rw [String.contains_char_eq]
  exact decide_eq_false h

/-! ## Lower case -/

theorem toLower_ne_null {c : Char} (h : c ≠ Char.ofNat 0) : c.toLower ≠ Char.ofNat 0 := by
  intro hlower
  unfold Char.toLower at hlower
  split at hlower
  · next hupper =>
    have hval := congrArg (fun c => c.val.toNat) hlower
    have hlow : 65 ≤ c.val.toNat := hupper.1
    have hhigh : c.val.toNat ≤ 90 := hupper.2
    have hshift : ('a'.val - 'A'.val).toNat = 32 := by decide
    have hzero : (Char.ofNat 0).val.toNat = 0 := by decide
    simp only [UInt32.toNat_add, hshift, hzero] at hval
    omega
  · exact h hlower

/-- No letter moves to the null character, or out of the code points. -/
theorem lowerRanges_spec : ∀ range ∈ lowerRanges, 0 < (range.first : Int) + range.shift ∧
    ((range.last : Int) + range.shift < 0xD800 ∨
      0xDFFF < (range.first : Int) + range.shift ∧
        (range.last : Int) + range.shift < 0x110000) := by
  decide +kernel

theorem toNat_ofNat_of_isValidChar {n : Nat} (h : n.isValidChar) : (Char.ofNat n).toNat = n := by
  rw [Char.ofNat, dif_pos h]
  rfl

theorem moveCase_ne_null {c : Char} (h : c ≠ Char.ofNat 0) :
    moveCase lowerRanges c ≠ Char.ofNat 0 := by
  unfold moveCase
  split
  · next range hfound =>
    obtain ⟨hpositive, hvalid⟩ := lowerRanges_spec range (List.mem_of_find?_eq_some hfound)
    have hcovers := List.find?_some hfound
    simp only [CaseRange.covers, Bool.and_eq_true, decide_eq_true_eq] at hcovers
    intro hnull
    have hcode := congrArg Char.toNat hnull
    rw [toNat_ofNat_of_isValidChar, toNat_ofNat_of_isValidChar] at hcode
    · omega
    · decide
    · simp only [Nat.isValidChar]
      omega
  · exact h

theorem null_not_mem_lowerChar {c : Char} (h : c ≠ Char.ofNat 0) (before after : Bool) :
    Char.ofNat 0 ∉ lowerChar before after c := by
  unfold lowerChar
  split
  · decide
  · split
    · split <;> decide
    · split
      · simpa [eq_comm] using toLower_ne_null h
      · simpa [eq_comm] using moveCase_ne_null h

theorem null_not_mem_lowerChars {cs : List Char} (h : Char.ofNat 0 ∉ cs) :
    Char.ofNat 0 ∉ lowerChars cs := by
  have hfrom : ∀ before, Char.ofNat 0 ∉ lowerFrom before cs := by
    induction cs with
    | nil => simp [lowerFrom]
    | cons c rest ih =>
      intro before
      rw [List.mem_cons, not_or] at h
      rw [lowerFrom, List.mem_append, not_or]
      exact ⟨null_not_mem_lowerChar (Ne.symm h.1) _ _, ih h.2 _⟩
  rw [lowerChars]
  split
  · intro hmem
    obtain ⟨c, hc, hnull⟩ := List.mem_map.1 hmem
    exact toLower_ne_null (fun hne => h (hne ▸ hc)) hnull
  · exact hfrom false

theorem null_not_mem_lower {s : String} (h : Char.ofNat 0 ∉ s.toList) :
    Char.ofNat 0 ∉ (lower s).toList := by
  rw [lower, String.toList_ofList]
  exact null_not_mem_lowerChars h

end Text

end Reporting
