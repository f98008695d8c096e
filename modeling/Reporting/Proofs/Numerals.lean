import Mathlib.Data.List.TakeWhile
import Reporting.Numeral

/-!
# The longest numeral

Scanning takes as many characters for each part of a numeral as it can, and gives a mark without
digits back. What it finds is the longest numeral that the text starts with
(`Numeral.isLongestIn_iff`), and it finds none only where no numeral starts the text
(`Numeral.scan?_eq_none_iff`).
-/

namespace Reporting

namespace Numeral

/-! ## The grammar -/

/-- What an exponent is written as: a mark, a sign if there is one, and at least one digit. -/
structure Exponent.WellFormed (e : Exponent) : Prop where
  mark : e.mark = 'e' ∨ e.mark = 'E'
  sign : ∀ c ∈ e.sign, isSign c = true
  digits : ∀ c ∈ e.digits, Text.isDigit c = true
  nonempty : e.digits ≠ []

/-- What a numeral is written as: a sign if there is one, digits, a point and digits if there is
one, and an exponent if there is one. There is a digit before the point or after it. -/
structure WellFormed (n : Numeral) : Prop where
  sign : ∀ c ∈ n.sign, isSign c = true
  whole : ∀ c ∈ n.whole, Text.isDigit c = true
  fraction : ∀ c ∈ n.fraction.getD [], Text.isDigit c = true
  nonempty : n.whole ≠ [] ∨ n.fraction.getD [] ≠ []
  exponent : ∀ e ∈ n.exponent, e.WellFormed

/-- A numeral that a text starts with. -/
def Starts (n : Numeral) (cs : List Char) : Prop := n.WellFormed ∧ n.chars <+: cs

/-- The longest numeral that a text starts with. -/
def IsLongestIn (n : Numeral) (cs : List Char) : Prop :=
  n.Starts cs ∧ ∀ m : Numeral, m.Starts cs → m.chars.length ≤ n.chars.length

/-! ## What is scanned is a numeral -/

theorem isSign_scanSign (cs : List Char) : ∀ c ∈ (scanSign cs).1, isSign c = true := by
  cases cs with
  | nil => simp [scanSign]
  | cons c rest =>
    rw [scanSign]
    split
    · next hc => simpa using hc
    · simp

theorem isDigit_scanFraction (cs : List Char) :
    ∀ c ∈ (scanFraction cs).1.getD [], Text.isDigit c = true := by
  unfold scanFraction
  split
  · exact fun c hc => List.mem_takeWhile_imp hc
  · simp

theorem wellFormed_scanExponent (cs : List Char) :
    ∀ e ∈ (scanExponent cs).1, e.WellFormed := by
  cases cs with
  | nil => simp [scanExponent]
  | cons mark rest =>
    simp only [scanExponent]
    split
    · next h =>
      simpa using Exponent.WellFormed.mk h.1 (isSign_scanSign rest)
        (fun c hc => List.mem_takeWhile_imp hc) h.2
    · simp

theorem wellFormed_of_scan? {cs rest : List Char} {n : Numeral} (h : scan? cs = some (n, rest)) :
    n.WellFormed := by
  simp only [scan?] at h
  split at h
  · cases h
  · next hdigit =>
    obtain ⟨rfl, rfl⟩ := Prod.mk.inj (Option.some.inj h)
    exact ⟨isSign_scanSign cs, fun c hc => List.mem_takeWhile_imp hc, isDigit_scanFraction _,
      Decidable.not_and_iff_not_or_not.1 hdigit, wellFormed_scanExponent _⟩

theorem starts_of_scan? {cs rest : List Char} {n : Numeral} (h : scan? cs = some (n, rest)) :
    n.Starts cs :=
  ⟨wellFormed_of_scan? h, rest, chars_append_rest h⟩

/-! ## Where the parts of a numeral end -/

theorem isSign_of_isDigit {c : Char} (h : Text.isDigit c = true) : isSign c = false := by
  rw [isSign, Bool.or_eq_false_iff, decide_eq_false_iff_not, decide_eq_false_iff_not]
  constructor <;> rintro rfl <;> exact absurd h (by decide)

theorem scanSign_toList_append {sign : Option Char} (hsign : ∀ c ∈ sign, isSign c = true)
    {c : Char} (hc : isSign c = false) (rest : List Char) :
    scanSign (sign.toList ++ c :: rest) = (sign, c :: rest) := by
  cases sign with
  | none => simp [scanSign, hc]
  | some s => simp [scanSign, hsign s rfl]

/-- An exponent takes the digits that follow it. -/
theorem scanExponent_append_of_wellFormed {e : Exponent} (h : e.WellFormed) (rest : List Char) :
    scanExponent (exponentChars (some e) ++ rest) =
      (some { e with digits := e.digits ++ rest.takeWhile Text.isDigit },
        rest.dropWhile Text.isDigit) := by
  obtain ⟨d, more, hcons⟩ := List.exists_cons_of_ne_nil h.nonempty
  have hd : isSign d = false := isSign_of_isDigit (h.digits d (hcons ▸ List.mem_cons_self))
  have hsign : scanSign (e.sign.toList ++ (e.digits ++ rest)) = (e.sign, e.digits ++ rest) := by
    rw [hcons, List.cons_append]
    exact scanSign_toList_append h.sign hd _
  simp only [exponentChars, List.cons_append, List.append_assoc, scanExponent, hsign,
    List.takeWhile_append_of_pos h.digits, List.dropWhile_append_of_pos h.digits]
  exact if_pos ⟨h.mark, fun hnil => h.nonempty (List.append_eq_nil_iff.1 hnil).1⟩

theorem scanExponent_exponentChars {e : Option Exponent} (h : ∀ x ∈ e, x.WellFormed) :
    scanExponent (exponentChars e) = (e, []) := by
  cases e with
  | none => rfl
  | some e => simpa using scanExponent_append_of_wellFormed (h e rfl) []

variable {n : Numeral} {tail : List Char}

/-- A text that neither goes on with digits nor with a point. -/
def Stops (cs : List Char) : Prop := ∀ c ∈ cs.head?, c ≠ '.' ∧ Text.isDigit c = false

theorem stops_exponentChars {e : Exponent} (h : e.WellFormed) (rest : List Char) :
    Stops (exponentChars (some e) ++ rest) := by
  obtain ⟨mark, sign, digits⟩ := e
  have hmark : mark ≠ '.' ∧ Text.isDigit mark = false := by
    obtain rfl | rfl : mark = 'e' ∨ mark = 'E' := h.mark <;> decide
  simpa [Stops, exponentChars] using hmark

theorem Stops.takeWhile (h : Stops tail) : tail.takeWhile Text.isDigit = [] := by
  cases tail with
  | nil => rfl
  | cons c rest => simp [(h c rfl).2]

theorem Stops.dropWhile (h : Stops tail) : tail.dropWhile Text.isDigit = tail := by
  cases tail with
  | nil => rfl
  | cons c rest => simp [(h c rfl).2]

theorem Stops.takeWhile_fractionChars (h : Stops tail) (fraction : Option (List Char)) :
    (fractionChars fraction ++ tail).takeWhile Text.isDigit = [] := by
  cases fraction with
  | none => exact h.takeWhile
  | some digits => rfl

theorem Stops.dropWhile_fractionChars (h : Stops tail) (fraction : Option (List Char)) :
    (fractionChars fraction ++ tail).dropWhile Text.isDigit = fractionChars fraction ++ tail := by
  cases fraction with
  | none => exact h.dropWhile
  | some digits => rfl

theorem Stops.scanFraction (h : Stops tail) {fraction : Option (List Char)}
    (hdigits : ∀ c ∈ fraction.getD [], Text.isDigit c = true) :
    scanFraction (fractionChars fraction ++ tail) = (fraction, tail) := by
  cases fraction with
  | none =>
    rw [fractionChars, List.nil_append, Numeral.scanFraction]
    rintro rest rfl
    exact (h '.' rfl).1 rfl
  | some digits =>
    have hdigits : ∀ c ∈ digits, Text.isDigit c = true := hdigits
    rw [fractionChars, List.cons_append, Numeral.scanFraction,
      List.takeWhile_append_of_pos hdigits, List.dropWhile_append_of_pos hdigits, h.takeWhile,
      h.dropWhile, List.append_nil]

/-- The characters of a numeral behind its sign start with a digit or a point. -/
theorem WellFormed.exists_cons (h : n.WellFormed) (tail : List Char) :
    ∃ c rest, n.whole ++ (fractionChars n.fraction ++ tail) = c :: rest ∧ isSign c = false := by
  obtain ⟨sign, whole, fraction, exponent⟩ := n
  cases whole with
  | cons d more => exact ⟨d, _, rfl, isSign_of_isDigit (h.whole d List.mem_cons_self)⟩
  | nil =>
    cases fraction with
    | none => exact absurd h.nonempty (by simp)
    | some digits => exact ⟨'.', _, rfl, rfl⟩

theorem scanSign_of_wellFormed (h : n.WellFormed) (tail : List Char) :
    scanSign (n.sign.toList ++ (n.whole ++ (fractionChars n.fraction ++ tail))) =
      (n.sign, n.whole ++ (fractionChars n.fraction ++ tail)) := by
  obtain ⟨c, rest, hcons, hc⟩ := h.exists_cons tail
  rw [hcons]
  exact scanSign_toList_append h.sign hc rest

/-- A numeral without its exponent ends where the text stops. -/
theorem scan?_of_stops (h : n.WellFormed) (hstops : Stops tail) :
    scan? (n.sign.toList ++ (n.whole ++ (fractionChars n.fraction ++ tail))) =
      some (⟨n.sign, n.whole, n.fraction, (scanExponent tail).1⟩, (scanExponent tail).2) := by
  have hdigit : ¬ (n.whole = [] ∧ n.fraction.getD [] = []) :=
    Decidable.not_and_iff_not_or_not.2 h.nonempty
  simp only [scan?, scanSign_of_wellFormed h, List.takeWhile_append_of_pos h.whole,
    List.dropWhile_append_of_pos h.whole, hstops.takeWhile_fractionChars,
    hstops.dropWhile_fractionChars, hstops.scanFraction h.fraction, List.append_nil]
  exact if_neg hdigit

theorem chars_append (n : Numeral) (rest : List Char) :
    n.chars ++ rest = n.sign.toList ++
      (n.whole ++ (fractionChars n.fraction ++ (exponentChars n.exponent ++ rest))) := by
  simp only [chars, List.append_assoc]

/-- **A numeral is read back as it is written.** -/
theorem scan?_chars (h : n.WellFormed) : scan? n.chars = some (n, []) := by
  have hstops : Stops (exponentChars n.exponent) := by
    cases hcase : n.exponent with
    | none => simp [Stops, exponentChars]
    | some e => simpa using stops_exponentChars (h.exponent e hcase) []
  have hchars := chars_append n []
  rw [List.append_nil, List.append_nil] at hchars
  rw [hchars, scan?_of_stops h hstops, scanExponent_exponentChars h.exponent]

/-! ## Scanning takes the most -/

theorem length_scanExponent_le (cs : List Char) : (scanExponent cs).2.length ≤ cs.length := by
  have hsuffix : (scanExponent cs).2 <:+ cs := ⟨_, scanExponent_append cs⟩
  exact hsuffix.length_le

theorem length_scanFraction_le (cs : List Char) : (scanFraction cs).2.length ≤ cs.length := by
  have hsuffix : (scanFraction cs).2 <:+ cs := ⟨_, scanFraction_append cs⟩
  exact hsuffix.length_le

/-- **Scanning leaves no more of a text than any numeral does that the text starts with.** -/
theorem exists_scan?_append (h : n.WellFormed) (rest : List Char) :
    ∃ m more, scan? (n.chars ++ rest) = some (m, more) ∧ more.length ≤ rest.length := by
  rw [chars_append]
  cases hexponent : n.exponent with
  | some e =>
    have he := h.exponent e hexponent
    refine ⟨_, _, scan?_of_stops h (stops_exponentChars he rest), ?_⟩
    rw [scanExponent_append_of_wellFormed he]
    exact List.length_dropWhile_le _ rest
  | none =>
    rw [exponentChars, List.nil_append]
    simp only [scan?, scanSign_of_wellFormed h, List.takeWhile_append_of_pos h.whole,
      List.dropWhile_append_of_pos h.whole]
    cases hfraction : n.fraction with
    | none =>
      have hwhole : n.whole ≠ [] := by simpa [hfraction] using h.nonempty
      rw [fractionChars, List.nil_append, if_neg (by simp [hwhole])]
      refine ⟨_, _, rfl, Nat.le_trans (length_scanExponent_le _) ?_⟩
      exact Nat.le_trans (length_scanFraction_le _) (List.length_dropWhile_le _ rest)
    | some digits =>
      have hdigits : ∀ c ∈ digits, Text.isDigit c = true := by
        simpa [hfraction] using h.fraction
      have hnonempty : n.whole ≠ [] ∨ digits ≠ [] := by simpa [hfraction] using h.nonempty
      have hpoint : ('.' :: (digits ++ rest)).dropWhile Text.isDigit = '.' :: (digits ++ rest) :=
        rfl
      rw [fractionChars, List.cons_append, hpoint, scanFraction,
        List.takeWhile_append_of_pos hdigits, List.dropWhile_append_of_pos hdigits]
      have hdigit : ¬ (n.whole ++ ('.' :: (digits ++ rest)).takeWhile Text.isDigit = [] ∧
          digits ++ rest.takeWhile Text.isDigit = []) := by
        rw [List.append_eq_nil_iff, List.append_eq_nil_iff]
        rintro ⟨⟨hwhole, -⟩, hnone, -⟩
        exact hnonempty.elim (· hwhole) (· hnone)
      refine ⟨_, _, if_neg hdigit, ?_⟩
      exact Nat.le_trans (length_scanExponent_le _) (List.length_dropWhile_le _ rest)

/-- **Scanning finds no numeral only where none starts the text.** -/
theorem scan?_eq_none_iff {cs : List Char} :
    scan? cs = none ↔ ∀ n : Numeral, ¬ n.Starts cs := by
  constructor
  · rintro hnone n ⟨hn, rest, rfl⟩
    obtain ⟨m, more, hscan, -⟩ := exists_scan?_append hn rest
    rw [hnone] at hscan
    cases hscan
  · intro hnone
    cases hscan : scan? cs with
    | none => rfl
    | some found => exact absurd (starts_of_scan? hscan) (hnone found.1)

/-- **Scanning finds the longest numeral**, and no other. -/
theorem isLongestIn_iff {cs : List Char} :
    n.IsLongestIn cs ↔ ∃ rest, scan? cs = some (n, rest) := by
  constructor
  · rintro ⟨⟨hn, rest, rfl⟩, hlongest⟩
    obtain ⟨m, more, hscan, hmore⟩ := exists_scan?_append hn rest
    -- What is scanned is as long as the longest numeral, so it has the same characters.
    have hchars := chars_append_rest hscan
    have hle := hlongest m (starts_of_scan? hscan)
    have hlength := congrArg List.length hchars
    rw [List.length_append, List.length_append] at hlength
    obtain ⟨hsame, rfl⟩ := List.append_inj hchars (by omega)
    have hm := scan?_chars (wellFormed_of_scan? hscan)
    rw [hsame, scan?_chars hn] at hm
    obtain ⟨rfl, -⟩ := Prod.mk.inj (Option.some.inj hm)
    exact ⟨_, hscan⟩
  · rintro ⟨rest, hscan⟩
    refine ⟨starts_of_scan? hscan, ?_⟩
    rintro m ⟨hm, others, rfl⟩
    obtain ⟨_, more, hfound, hmore⟩ := exists_scan?_append hm others
    rw [hscan] at hfound
    obtain ⟨rfl, rfl⟩ := Prod.mk.inj (Option.some.inj hfound)
    have hlength := congrArg List.length (chars_append_rest hscan)
    rw [List.length_append, List.length_append] at hlength
    omega

end Numeral

end Reporting
