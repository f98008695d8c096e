import Mathlib.Data.List.Forall2
import Mathlib.Data.String.Basic
import Reporting.Proofs.CivilDates
import Reporting.Time.ClockReading

/-!
# The order of moments and of their texts

Digits of one width compare as the numbers that they write (`Text.padded_lt`), so texts of such
digits behind one another compare as the lists of their numbers (`Text.spelled_lt`). A moment is
written from its greatest part to its least (`Moment.toIso_eq_ok`), and so its texts compare as the
milliseconds since 1970 (`Moment.toIso_lt_iff`). Every reading in the years 1 to 9999 has a text,
all of one length, and readings compare as these (`ClockReading.compare_toIso`).
-/

namespace Reporting

namespace Text

/-! ## Digits of one width -/

theorem padded_of_lt {n : Nat} (h : n < 10) : padded 10 1 n = [n.digitChar] := by
  rw [padded, Nat.toDigits_of_lt_base h]
  rfl

theorem padded_succ {width : Nat} (hwidth : 0 < width) (n : Nat) :
    padded 10 (width + 1) n = padded 10 width (n / 10) ++ [(n % 10).digitChar] := by
  by_cases h : n < 10
  · have hzeros : List.replicate (width - 1) '0' ++ ['0'] = List.replicate width '0' := by
      rw [← List.replicate_succ', Nat.sub_add_cancel hwidth]
    rw [padded, padded, Nat.div_eq_of_lt h, Nat.mod_eq_of_lt h, Nat.toDigits_of_lt_base h,
      Nat.toDigits_of_lt_base (by omega), List.length_singleton, List.length_singleton,
      Nat.add_sub_cancel, ← hzeros]
    rfl
  · rw [padded, padded, Nat.toDigits_of_base_le (by omega) (by omega), List.length_append,
      List.length_singleton, Nat.add_sub_add_right, List.append_assoc]

theorem length_padded {width n : Nat} (hwidth : 0 < width) (h : n < 10 ^ width) :
    (padded 10 width n).length = width := by
  have hdigits := (Nat.length_toDigits_le_iff (by omega) hwidth).2 h
  rw [padded, List.length_append, List.length_replicate]
  omega

theorem digitChar_lt {m n : Nat} (h : m < n) (hn : n < 10) : m.digitChar < n.digitChar := by
  have hall : ∀ n < 10, ∀ m < n, m.digitChar < n.digitChar := by decide
  exact hall n hn m h

theorem append_lt_append {α : Type} [LT α] {front other : List α}
    (hlength : front.length = other.length) (h : front < other) (back next : List α) :
    front ++ back < other ++ next := by
  induction front generalizing other with
  | nil =>
    rw [List.length_nil, eq_comm, List.length_eq_zero_iff] at hlength
    subst hlength
    cases h
  | cons a rest ih =>
    cases other with
    | nil => cases hlength
    | cons b others =>
      rw [List.cons_append, List.cons_append, List.cons_lt_cons_iff]
      obtain hlt | ⟨rfl, hrest⟩ := List.cons_lt_cons_iff.1 h
      · exact .inl hlt
      · exact .inr ⟨rfl, ih (Nat.succ.inj hlength) hrest⟩

/-- Digits of one width compare as the numbers that they write. -/
theorem padded_lt {width m n : Nat} (hwidth : 0 < width) (h : m < n) (hn : n < 10 ^ width) :
    padded 10 width m < padded 10 width n := by
  induction width, hwidth using Nat.le_induction generalizing m n with
  | base =>
    rw [padded_of_lt (by omega), padded_of_lt (by omega), List.cons_lt_cons_iff]
    exact .inl (digitChar_lt h (by omega))
  | succ width hwidth ih =>
    rw [Nat.pow_succ] at hn
    have hfront : n / 10 < 10 ^ width := by omega
    rw [padded_succ hwidth, padded_succ hwidth]
    obtain hlt | heq : m / 10 < n / 10 ∨ m / 10 = n / 10 := by omega
    · refine append_lt_append ?_ (ih hlt hfront) _ _
      rw [length_padded hwidth (hlt.trans hfront), length_padded hwidth hfront]
    · rw [heq]
      refine List.append_left_lt (List.cons_lt_cons_iff.2 (.inl ?_))
      exact digitChar_lt (by omega) (by omega)

/-! ## Numbers behind one another -/

/-- Numbers in digits of given widths, each with a mark behind it. -/
def spelled : List (Nat × Char) → List Nat → List Char
  | (width, mark) :: layout, n :: numbers => padded 10 width n ++ mark :: spelled layout numbers
  | _, _ => []

/-- Whether a number can be written in a width. -/
def FitsWidth (field : Nat × Char) (n : Nat) : Prop := 0 < field.1 ∧ n < 10 ^ field.1

/-- Numbers in digits of given widths compare as their list. -/
theorem spelled_lt {layout : List (Nat × Char)} {numbers others : List Nat}
    (hnumbers : List.Forall₂ FitsWidth layout numbers)
    (hothers : List.Forall₂ FitsWidth layout others) (h : numbers < others) :
    spelled layout numbers < spelled layout others := by
  induction hnumbers generalizing others with
  | nil =>
    cases hothers
    cases h
  | @cons field n layout numbers hn hnumbers ih =>
    obtain _ | @⟨_, m, _, others, hm, hothers⟩ := hothers
    obtain ⟨hwidth, hfits⟩ := hn
    rw [spelled, spelled]
    obtain hlt | ⟨rfl, hrest⟩ := List.cons_lt_cons_iff.1 h
    · refine append_lt_append ?_ (padded_lt hwidth hlt hm.2) _ _
      rw [length_padded hwidth hfits, length_padded hwidth hm.2]
    · exact List.append_left_lt (List.cons_lt_cons_iff.2 (.inr ⟨rfl, ih hothers hrest⟩))

theorem length_spelled {layout : List (Nat × Char)} {numbers : List Nat}
    (h : List.Forall₂ FitsWidth layout numbers) :
    (spelled layout numbers).length = (layout.map fun field => field.1 + 1).sum := by
  induction h with
  | nil => rfl
  | cons hfits _ ih =>
    rw [spelled, List.length_append, List.length_cons, ih, length_padded hfits.1 hfits.2,
      List.map_cons, List.sum_cons]
    omega

theorem getLast?_spelled {layout : List (Nat × Char)} {numbers : List Nat}
    (h : List.Forall₂ FitsWidth layout numbers) :
    (spelled layout numbers).getLast? = layout.getLast?.map Prod.snd := by
  induction h with
  | nil => rfl
  | cons _ hrest ih =>
    rw [spelled, List.getLast?_append, List.getLast?_cons, ih, List.getLast?_cons, Option.some_or]
    cases hrest with
    | nil => rfl
    | cons => rw [List.getLast?_cons]; rfl

end Text

namespace Moment

/-! ## The parts of a moment -/

/-- The whole milliseconds since 1970. -/
def millis (m : Moment) : Int := m.nanos / 1000000

/-- The widths of the parts of a moment and the marks behind them. -/
def isoLayout : List (Nat × Char) :=
  [(4, '-'), (2, '-'), (2, 'T'), (2, ':'), (2, ':'), (2, '.'), (3, 'Z')]

/-- The parts of a moment, from its year to its milliseconds. -/
def isoParts (m : Moment) : List Nat :=
  let millis := m.timeOfDay / 1000000
  [m.date.year.toNat, m.date.month, m.date.day, millis / 1000 / 3600, millis / 1000 / 60 % 60,
    millis / 1000 % 60, millis % 1000]

theorem date?_eq_some {m : Moment} {d : Date} :
    m.date? = some d ↔ m.date.IsValid ∧ m.date = d := by
  rw [date?]
  split <;> simp_all

theorem toIso_eq_ok {m : Moment} {s : String} :
    m.toIso = .ok s ↔
      m.date.IsValid ∧ String.ofList (Text.spelled isoLayout m.isoParts) = s := by
  have hseconds : m.timeOfDay / nanosPerSecond = m.timeOfDay / 1000000 / 1000 := by
    simp only [nanosPerSecond]
    generalize m.timeOfDay = time
    omega
  have hmillis : m.timeOfDay % nanosPerSecond / 1000000 = m.timeOfDay / 1000000 % 1000 := by
    simp only [nanosPerSecond]
    generalize m.timeOfDay = time
    omega
  have htext : clockText m.date (m.timeOfDay / nanosPerSecond)
      ++ '.' :: digits 3 (m.timeOfDay % nanosPerSecond / 1000000) ++ ['Z'] =
      Text.spelled isoLayout m.isoParts := by
    rw [hseconds, hmillis]
    simp [Text.spelled, isoLayout, isoParts, clockText, digits]
  unfold toIso
  split
  · next hdate =>
    have hinvalid : ¬ m.date.IsValid := fun hvalid => by simp [date?, hvalid] at hdate
    exact ⟨nofun, fun h => absurd h.1 hinvalid⟩
  · next d hdate =>
    obtain ⟨hvalid, rfl⟩ := date?_eq_some.1 hdate
    rw [htext, Except.ok.injEq, and_iff_right hvalid]

theorem timeOfDay_lt (m : Moment) : m.timeOfDay < 86400 * 1000000000 := by
  have hday : nanosPerDay = 86400 * 1000000000 := rfl
  rw [timeOfDay, hday]
  omega

theorem forall₂_isoParts {m : Moment} (h : m.date.IsValid) :
    List.Forall₂ Text.FitsWidth isoLayout m.isoParts := by
  obtain ⟨hyear, hyear', hmonth, hmonth', hday, hday'⟩ := h
  have htime := m.timeOfDay_lt
  have hlength : Date.monthLength m.date.year m.date.month ≤ 31 := by
    have hall : ∀ leap : Bool, ∀ length ∈ 0 :: Date.monthLengths leap, length ≤ 31 := by decide
    refine hall (Date.isLeap m.date.year) _ ?_
    rw [Date.monthLength, List.getD_eq_getElem?_getD]
    cases hmonth : (Date.monthLengths (Date.isLeap m.date.year))[m.date.month - 1]? with
    | none => simp
    | some length => exact List.mem_cons_of_mem _ (List.mem_of_getElem? hmonth)
  simp only [isoLayout, isoParts, List.forall₂_cons, List.Forall₂.nil, Text.FitsWidth,
    Nat.reducePow, Nat.reduceLT, true_and, and_true]
  omega

/-- A later millisecond has greater parts. -/
theorem isoParts_lt {m n : Moment} (hm : m.date.IsValid)
    (h : m.millis < n.millis) : m.isoParts < n.isoParts := by
  have hday : nanosPerDay = 86400 * 1000000000 := rfl
  rw [millis, millis] at h
  obtain hlt | heq : m.nanos / nanosPerDay < n.nanos / nanosPerDay ∨
      m.nanos / nanosPerDay = n.nanos / nanosPerDay := by
    rw [hday]
    omega
  · have hbefore : m.date.Before n.date := Date.before_ofDayNumber (by omega)
    have hpositive : 1 ≤ m.date.year := hm.1
    simp only [isoParts, List.cons_lt_cons_iff]
    obtain hyear | ⟨hyear, hmonth | ⟨hmonth, hday⟩⟩ := hbefore
    · exact .inl (by omega)
    · exact .inr ⟨by rw [hyear], .inl hmonth⟩
    · exact .inr ⟨by rw [hyear], .inr ⟨hmonth, .inl hday⟩⟩
  · have hdate : m.date = n.date := by rw [date, date, heq]
    have htime : m.timeOfDay / 1000000 < n.timeOfDay / 1000000 := by
      rw [hday] at heq
      rw [timeOfDay, timeOfDay, hday]
      omega
    simp only [isoParts, List.cons_lt_cons_iff, hdate, lt_irrefl, true_and, false_or, and_false,
      or_false]
    omega

theorem isoParts_eq {m n : Moment} (h : m.millis = n.millis) : m.isoParts = n.isoParts := by
  have hday : nanosPerDay = 86400 * 1000000000 := rfl
  rw [millis, millis] at h
  have hdate : m.date = n.date := by
    have hsame : m.nanos / nanosPerDay = n.nanos / nanosPerDay := by
      rw [hday]
      omega
    rw [date, date, hsame]
  have htime : m.timeOfDay / 1000000 = n.timeOfDay / 1000000 := by
    rw [timeOfDay, timeOfDay, hday]
    omega
  simp only [isoParts, hdate, htime]

/-! ## The order of texts -/

/-- **Texts of moments compare as the milliseconds since 1970.** -/
theorem toIso_lt_iff {m n : Moment} {s t : String} (hs : m.toIso = .ok s) (ht : n.toIso = .ok t) :
    s < t ↔ m.millis < n.millis := by
  obtain ⟨hm, rfl⟩ := toIso_eq_ok.1 hs
  obtain ⟨hn, rfl⟩ := toIso_eq_ok.1 ht
  rw [String.lt_iff_toList_lt, String.toList_ofList, String.toList_ofList]
  have hlt : ∀ {m n : Moment}, m.date.IsValid → n.date.IsValid → m.millis < n.millis →
      Text.spelled isoLayout m.isoParts < Text.spelled isoLayout n.isoParts := fun hm hn h =>
    Text.spelled_lt (forall₂_isoParts hm) (forall₂_isoParts hn) (isoParts_lt hm h)
  constructor
  · intro h
    by_contra hnot
    obtain hgt | heq : n.millis < m.millis ∨ m.millis = n.millis := by omega
    · exact lt_asymm h (hlt hn hm hgt)
    · rw [isoParts_eq heq] at h
      exact lt_irrefl _ h
  · exact hlt hm hn

theorem toIso_le_iff {m n : Moment} {s t : String} (hs : m.toIso = .ok s) (ht : n.toIso = .ok t) :
    s ≤ t ↔ m.millis ≤ n.millis := by
  rw [← not_lt, ← not_lt, toIso_lt_iff ht hs]

/-- A moment in the years 1 to 9999, as told by the first midnights in and behind them. -/
def InCalendar (m : Moment) : Prop :=
  (ofDate ⟨1, 1, 1⟩).nanos ≤ m.nanos ∧ m.nanos < (ofDate ⟨10000, 1, 1⟩).nanos

instance (m : Moment) : Decidable m.InCalendar := by
  unfold InCalendar
  infer_instance

theorem isValid_date_iff {m : Moment} : m.date.IsValid ↔ m.InCalendar := by
  have hoccurs : m.date.Occurs := Date.occurs_ofDayNumber _
  have hmonth := hoccurs.1
  rw [InCalendar, ← not_le, ofDate_first_le_iff (by decide) (by decide),
    ofDate_first_le_iff (by decide) (by decide), Date.IsValid, and_iff_left hoccurs]
  omega

theorem exists_toIso {m : Moment} (h : m.InCalendar) : ∃ s, m.toIso = .ok s :=
  ⟨_, toIso_eq_ok.2 ⟨isValid_date_iff.2 h, rfl⟩⟩

/-- All texts of moments have one length and end in a Z. -/
theorem length_toIso {m : Moment} {s : String} (h : m.toIso = .ok s) :
    s.length = 24 ∧ s.toList.getLast? = some 'Z' := by
  obtain ⟨hvalid, rfl⟩ := toIso_eq_ok.1 h
  rw [String.toList_ofList, String.length_ofList]
  exact ⟨Text.length_spelled (forall₂_isoParts hvalid),
    Text.getLast?_spelled (forall₂_isoParts hvalid)⟩

end Moment

/-! ## The order of readings -/

namespace ClockReading

/-- **Readings in the years 1 to 9999 of UTC compare as their texts**, whatever their offsets: by
their milliseconds since 1970. The texts have one length and end in a Z. -/
theorem compare_toIso {r q : ClockReading} (hr : r.moment.InCalendar) (hq : q.moment.InCalendar) :
    ∃ s t, r.moment.toIso = .ok s ∧ q.moment.toIso = .ok t ∧
      compare s t = compare r.moment.millis q.moment.millis ∧
      s.length = t.length ∧ s.toList.getLast? = some 'Z' ∧ t.toList.getLast? = some 'Z' := by
  obtain ⟨s, hs⟩ := Moment.exists_toIso hr
  obtain ⟨t, ht⟩ := Moment.exists_toIso hq
  obtain ⟨hlength, hlast⟩ := Moment.length_toIso hs
  obtain ⟨hlength', hlast'⟩ := Moment.length_toIso ht
  refine ⟨s, t, hs, ht, ?_, hlength.trans hlength'.symm, hlast, hlast'⟩
  obtain hlt | heq | hgt := lt_trichotomy r.moment.millis q.moment.millis
  · rw [compare_lt_iff_lt.2 hlt, compare_lt_iff_lt]
    exact (Moment.toIso_lt_iff hs ht).2 hlt
  · rw [compare_eq_iff_eq.2 heq, compare_eq_iff_eq]
    exact le_antisymm ((Moment.toIso_le_iff hs ht).2 heq.le) ((Moment.toIso_le_iff ht hs).2 heq.ge)
  · rw [compare_gt_iff_gt.2 hgt, compare_gt_iff_gt]
    exact (Moment.toIso_lt_iff ht hs).2 hgt

/-- A reading of the first of March 2024, half past midnight and 999 microseconds, an hour ahead of
UTC. -/
def marchReading : ClockReading :=
  ⟨(Moment.ofDate ⟨2024, 3, 1⟩).after 1800000999000, some 3600000000000⟩

/-- A reading of the day before that, half past eleven and one microsecond, without an offset. -/
def leapDayReading : ClockReading := ⟨(Moment.ofDate ⟨2024, 2, 29⟩).after 84600000001000, none⟩

theorem compare_toIso_leapDay :
    marchReading.moment.InCalendar ∧ leapDayReading.moment.InCalendar ∧
      ∃ s t, marchReading.moment.toIso = .ok s ∧ leapDayReading.moment.toIso = .ok t ∧
        compare s t = .eq ∧ s.length = t.length := by
  have hmarch : marchReading.moment.InCalendar := by decide
  have hleap : leapDayReading.moment.InCalendar := by decide
  obtain ⟨s, t, hs, ht, horder, hlength, -⟩ := compare_toIso hmarch hleap
  exact ⟨hmarch, hleap, s, t, hs, ht, horder.trans (by decide), hlength⟩

end ClockReading

end Reporting
