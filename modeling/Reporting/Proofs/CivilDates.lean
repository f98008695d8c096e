import Reporting.Time.Moment

/-!
# Numbers of civil dates

The date with a number occurs in the calendar and has that number (`Date.dayNumber_ofDayNumber`),
and numbers grow with dates (`Date.dayNumber_lt`), so the date with a greater number comes later
(`Date.before_ofDayNumber`). Hence the first of a month is over at a moment if the date of the
moment comes later in the calendar (`Moment.ofDate_first_le_iff`).
-/

namespace Reporting

namespace Date

/-! ## Years -/

/-- The number of days of a year. -/
def yearLength (leap : Bool) : Nat := if leap then 366 else 365

theorem daysBeforeYear_succ (year : Int) :
    daysBeforeYear (year + 1) = daysBeforeYear year + yearLength (isLeap year) := by
  simp only [daysBeforeYear, yearLength, isLeap, Bool.and_eq_true, Bool.or_eq_true,
    decide_eq_true_eq]
  split <;> omega

theorem daysBeforeYear_mono {year later : Int} (h : year ≤ later) :
    daysBeforeYear year ≤ daysBeforeYear later := by
  simp only [daysBeforeYear]
  omega

/-- The year that holds a day. The guess from the mean length of years is off by one at most. -/
theorem yearAfter_spec (days : Int) :
    daysBeforeYear (yearAfter days) ≤ days ∧ days < daysBeforeYear (yearAfter days + 1) := by
  have hguess : 146097 * (days * 400 / 146097) ≤ days * 400 ∧
      days * 400 < 146097 * (days * 400 / 146097 + 1) := by omega
  rw [yearAfter]
  generalize days * 400 / 146097 = years at hguess ⊢
  by_cases hearly : days < daysBeforeYear (years + 1)
  · simp only [if_pos hearly]
    simp only [daysBeforeYear] at hearly ⊢
    omega
  · by_cases hlate : daysBeforeYear (years + 1 + 1) ≤ days
    · simp only [if_neg hearly, if_pos hlate]
      simp only [daysBeforeYear] at hlate ⊢
      omega
    · simp only [if_neg hearly, if_neg hlate]
      omega

/-! ## Months -/

theorem sum_monthLengths (leap : Bool) : (monthLengths leap).sum = yearLength leap := by
  cases leap <;> rfl

theorem daysBeforeMonth_add_le (leap : Bool) {month later : Nat} (hmonth : 1 ≤ month)
    (h : month < later) (hlater : later ≤ 12) :
    daysBeforeMonth leap month + (monthLengths leap).getD (month - 1) 0 ≤
      daysBeforeMonth leap later := by
  have hall : ∀ leap : Bool, ∀ later < 13, ∀ month < later, 1 ≤ month →
      daysBeforeMonth leap month + (monthLengths leap).getD (month - 1) 0 ≤
        daysBeforeMonth leap later := by
    decide
  exact hall leap later (by omega) month h hmonth

theorem daysBeforeMonth_add_le_yearLength (leap : Bool) {month : Nat} (hmonth : 1 ≤ month)
    (h : month ≤ 12) :
    daysBeforeMonth leap month + (monthLengths leap).getD (month - 1) 0 ≤ yearLength leap := by
  have hall : ∀ leap : Bool, ∀ month < 13, 1 ≤ month →
      daysBeforeMonth leap month + (monthLengths leap).getD (month - 1) 0 ≤ yearLength leap := by
    decide
  exact hall leap month (by omega) hmonth

/-- The month that holds a day of the year, and the day of that month. -/
theorem splitDay_spec {lengths : List Nat} {day : Nat} (h : day < lengths.sum) (first : Nat) :
    ∃ before length after, lengths = before ++ length :: after ∧
      splitDay first day lengths = (first + before.length, day - before.sum + 1) ∧
      before.sum ≤ day ∧ day < before.sum + length := by
  induction lengths generalizing first day with
  | nil => simp at h
  | cons length rest ih =>
    rw [List.sum_cons] at h
    by_cases hday : day < length
    · exact ⟨[], length, rest, rfl, by simp [splitDay, hday], by simp, by simpa using hday⟩
    · have hrest : day - length < rest.sum := by omega
      obtain ⟨before, found, after, rfl, hsplit, hle, hlt⟩ := ih hrest (first + 1)
      refine ⟨length :: before, found, after, rfl, ?_, ?_, ?_⟩
      · rw [splitDay, if_neg hday, hsplit, List.length_cons, List.sum_cons, Prod.mk.injEq]
        omega
      · rw [List.sum_cons]
        omega
      · rw [List.sum_cons]
        omega

/-! ## Dates with numbers -/

/-- A date that occurs lies in its year. -/
theorem Occurs.dayNumber_mem {d : Date} (h : d.Occurs) :
    daysBeforeYear d.year < d.dayNumber ∧ d.dayNumber ≤ daysBeforeYear (d.year + 1) := by
  obtain ⟨hmonth, hmonth', hday, hday'⟩ := h
  have hfits := daysBeforeMonth_add_le_yearLength (isLeap d.year) hmonth hmonth'
  rw [monthLength] at hday'
  rw [dayNumber, daysBeforeYear_succ]
  omega

/-- The date with a number occurs and has that number. -/
theorem ofDayNumber_spec (number : Int) :
    (ofDayNumber number).Occurs ∧ (ofDayNumber number).dayNumber = number := by
  obtain ⟨hyear, hyear'⟩ := yearAfter_spec (number - 1)
  rw [daysBeforeYear_succ, ← sum_monthLengths] at hyear'
  have hday : (number - 1 - daysBeforeYear (yearAfter (number - 1))).toNat <
      (monthLengths (isLeap (yearAfter (number - 1)))).sum := by
    omega
  obtain ⟨before, length, after, hlengths, hsplit, hle, hlt⟩ := splitDay_spec hday 1
  have hcount : (monthLengths (isLeap (yearAfter (number - 1)))).length = 12 := rfl
  have hmonth : before.length < 12 := by
    rw [hlengths, List.length_append, List.length_cons] at hcount
    omega
  have hlength :
      (monthLengths (isLeap (yearAfter (number - 1)))).getD before.length 0 = length := by
    rw [hlengths]
    simp
  have htake : (monthLengths (isLeap (yearAfter (number - 1)))).take before.length = before := by
    rw [hlengths, List.take_left]
  have hdate : ofDayNumber number = ⟨yearAfter (number - 1), 1 + before.length,
      (number - 1 - daysBeforeYear (yearAfter (number - 1))).toNat - before.sum + 1⟩ := by
    rw [ofDayNumber]
    simp only [hsplit]
  rw [hdate]
  constructor
  · simp only [Occurs, monthLength, Nat.add_sub_cancel_left, hlength]
    omega
  · simp only [dayNumber, daysBeforeMonth, Nat.add_sub_cancel_left, htake]
    omega

theorem occurs_ofDayNumber (number : Int) : (ofDayNumber number).Occurs :=
  (ofDayNumber_spec number).1

@[simp] theorem dayNumber_ofDayNumber (number : Int) : (ofDayNumber number).dayNumber = number :=
  (ofDayNumber_spec number).2

/-! ## The order of dates -/

/-- Whether a date comes before another one. -/
def Before (d e : Date) : Prop :=
  d.year < e.year ∨ d.year = e.year ∧ (d.month < e.month ∨ d.month = e.month ∧ d.day < e.day)

theorem before_or_eq_or_before (d e : Date) : d.Before e ∨ d = e ∨ e.Before d := by
  rw [Date.mk.injEq, Before, Before]
  omega

/-- **Numbers grow with dates.** -/
theorem dayNumber_lt {d e : Date} (hd : d.Occurs) (he : e.Occurs) (h : d.Before e) :
    d.dayNumber < e.dayNumber := by
  obtain hyear | ⟨hyear, hmonth | ⟨hmonth, hday⟩⟩ := h
  · have hmono := daysBeforeYear_mono (show d.year + 1 ≤ e.year by omega)
    have := hd.dayNumber_mem
    have := he.dayNumber_mem
    omega
  · have hfits := daysBeforeMonth_add_le (isLeap e.year) hd.1 hmonth he.2.1
    have hlast := hd.2.2.2
    have hfirst := he.2.2.1
    rw [monthLength, hyear] at hlast
    simp only [dayNumber, hyear]
    omega
  · simp only [dayNumber, hyear, hmonth]
    omega

/-- The date with a greater number comes later. -/
theorem before_ofDayNumber {number later : Int} (h : number < later) :
    (ofDayNumber number).Before (ofDayNumber later) := by
  obtain hbefore | hsame | hafter := before_or_eq_or_before (ofDayNumber number) (ofDayNumber later)
  · exact hbefore
  · have hnumber := congrArg dayNumber hsame
    rw [dayNumber_ofDayNumber, dayNumber_ofDayNumber] at hnumber
    omega
  · have hnumber := dayNumber_lt (occurs_ofDayNumber later) (occurs_ofDayNumber number) hafter
    rw [dayNumber_ofDayNumber, dayNumber_ofDayNumber] at hnumber
    omega

theorem dayNumber_lt_iff {d e : Date} (hd : d.Occurs) (he : e.Occurs) :
    d.dayNumber < e.dayNumber ↔ d.Before e := by
  refine ⟨fun hlt => ?_, dayNumber_lt hd he⟩
  obtain hbefore | rfl | hafter := before_or_eq_or_before d e
  · exact hbefore
  · exact absurd hlt (Int.lt_irrefl _)
  · exact absurd (dayNumber_lt he hd hafter) (Int.not_lt.2 (Int.le_of_lt hlt))

example : ofDayNumber 738886 = ⟨2024, 1, 1⟩ ∧ dayNumber ⟨2024, 2, 29⟩ = 738945 := by decide

/-! ## The first of a month -/

theorem occurs_first (year : Int) {month : Nat} (hmonth : 1 ≤ month) (hmonth' : month ≤ 12) :
    Occurs ⟨year, month, 1⟩ := by
  have hall : ∀ leap : Bool, ∀ month < 13, 1 ≤ month →
      1 ≤ (monthLengths leap).getD (month - 1) 0 := by
    decide
  exact ⟨hmonth, hmonth', Nat.le_refl 1, hall (isLeap year) month (by omega) hmonth⟩

theorem dayNumber_first_lt_iff {year later : Int} {month : Nat} (hmonth : 1 ≤ month)
    (hmonth' : month ≤ 12) :
    dayNumber ⟨year, month, 1⟩ < dayNumber ⟨later, month, 1⟩ ↔ year < later := by
  rw [dayNumber_lt_iff (occurs_first year hmonth hmonth') (occurs_first later hmonth hmonth')]
  simp only [Before, Nat.lt_irrefl, and_false, or_false]

theorem dayNumber_first_le_iff {year number : Int} {month : Nat} (hmonth : 1 ≤ month)
    (hmonth' : month ≤ 12) :
    dayNumber ⟨year, month, 1⟩ ≤ number ↔ year < (ofDayNumber number).year ∨
      year = (ofDayNumber number).year ∧ month ≤ (ofDayNumber number).month := by
  have hoccurs := occurs_ofDayNumber number
  have hlt := dayNumber_lt_iff hoccurs (occurs_first year hmonth hmonth')
  have hday := hoccurs.2.2.1
  rw [dayNumber_ofDayNumber, Before] at hlt
  rw [← Int.not_lt, hlt]
  dsimp only
  omega

end Date

/-! ## Midnights -/

namespace Moment

/-- A date has begun at a moment if its number is not above that of the moment's date. -/
theorem ofDate_le_iff (d : Date) (m : Moment) :
    (ofDate d).nanos ≤ m.nanos ↔ d.dayNumber ≤ epochDay + m.nanos / nanosPerDay := by
  have hday : (0 : Int) < nanosPerDay := by decide
  rw [ofDate, ← Int.le_ediv_iff_mul_le hday]
  omega

/-- **The first of a month has begun** at the moments of its month and later. -/
theorem ofDate_first_le_iff {year : Int} {month : Nat} (hmonth : 1 ≤ month) (hmonth' : month ≤ 12)
    (m : Moment) :
    (ofDate ⟨year, month, 1⟩).nanos ≤ m.nanos ↔
      year < m.date.year ∨ year = m.date.year ∧ month ≤ m.date.month := by
  rw [ofDate_le_iff, Date.dayNumber_first_le_iff hmonth hmonth', date]

theorem ofDate_first_lt_iff {year later : Int} {month : Nat} (hmonth : 1 ≤ month)
    (hmonth' : month ≤ 12) :
    (ofDate ⟨year, month, 1⟩).nanos < (ofDate ⟨later, month, 1⟩).nanos ↔ year < later := by
  have hday : (0 : Int) < nanosPerDay := by decide
  refine Iff.trans ?_ (Date.dayNumber_first_lt_iff hmonth hmonth')
  rw [ofDate, ofDate, Int.mul_lt_mul_right hday]
  omega

end Moment

end Reporting
