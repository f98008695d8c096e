import Mathlib.Data.Int.ConditionallyCompleteOrder
import Mathlib.Data.Int.Interval
import Mathlib.Data.Set.Card
import Reporting.Dataset
import Reporting.Proofs.CivilDates
import Reporting.Proofs.Outcome

/-!
# Fiscal years tile time

The fiscal year of a date grows by one with each midnight on which one starts
(`FiscalYear.ofDate_sub_eq_iff`), so the years of dates count the starts between them. In a column
each cell has the year of its own date, as long as it can be kept to the precision that the cells
share (`FiscalYear.ofColumn_tiles`). A date that cannot has the current year instead, although it
has its own when it stands alone (`FiscalYear.exists_year_of_other_cell`).
-/

namespace Reporting.FiscalYear

/-! ## Starts of years -/

/-- The midnights, behind a moment and up to another one, on which a fiscal year starts. -/
def startsIn (startMonth : Nat) (m n : Moment) : Set Moment :=
  {start | (∃ year, start = .ofDate ⟨year, startMonth, 1⟩) ∧ m.nanos < start.nanos ∧
    start.nanos ≤ n.nanos}

/-- The calendar year in which the fiscal year of a date started. -/
def startYear (startMonth : Nat) (d : Date) : Int :=
  if startMonth ≤ d.month then d.year else d.year - 1

section Starts

variable {startMonth : Nat} (hfirst : 1 ≤ startMonth) (hlast : startMonth ≤ 12) {m n : Moment}

include hfirst

/-- A fiscal year is named for the calendar year in which it ends. -/
theorem ofDate_eq (m : Moment) :
    ofDate startMonth m.date = startYear startMonth m.date + if startMonth = 1 then 0 else 1 := by
  have hmonth : 1 ≤ m.date.month := (Date.occurs_ofDayNumber _).1
  rw [ofDate, startYear]
  grind

include hlast

theorem start_le_iff {year : Int} :
    (Moment.ofDate ⟨year, startMonth, 1⟩).nanos ≤ m.nanos ↔
      year ≤ startYear startMonth m.date := by
  rw [Moment.ofDate_first_le_iff hfirst hlast, startYear]
  grind

theorem startYear_mono (h : m.nanos ≤ n.nanos) :
    startYear startMonth m.date ≤ startYear startMonth n.date :=
  (start_le_iff hfirst hlast).1 (((start_le_iff hfirst hlast).2 le_rfl).trans h)

theorem startsIn_eq :
    startsIn startMonth m n = (fun year => Moment.ofDate ⟨year, startMonth, 1⟩) ''
      Set.Ioc (startYear startMonth m.date) (startYear startMonth n.date) := by
  ext start
  simp only [startsIn, Set.mem_ofPred_eq, Set.mem_image, Set.mem_Ioc]
  constructor
  · rintro ⟨⟨year, rfl⟩, hafter, hupto⟩
    rw [← not_le, start_le_iff hfirst hlast, not_le] at hafter
    exact ⟨year, ⟨hafter, (start_le_iff hfirst hlast).1 hupto⟩, rfl⟩
  · rintro ⟨year, ⟨hafter, hupto⟩, rfl⟩
    rw [← not_le, ← start_le_iff hfirst hlast, not_le] at hafter
    exact ⟨⟨year, rfl⟩, hafter, (start_le_iff hfirst hlast).2 hupto⟩

theorem encard_startsIn :
    (startsIn startMonth m n).encard =
      (startYear startMonth n.date - startYear startMonth m.date).toNat := by
  have hinjective : Function.Injective fun year => Moment.ofDate ⟨year, startMonth, 1⟩ := by
    intro year other h
    have hnanos := congrArg Moment.nanos h
    obtain hlt | heq | hgt := lt_trichotomy year other
    · exact absurd hnanos ((Moment.ofDate_first_lt_iff hfirst hlast).2 hlt).ne
    · exact heq
    · exact absurd hnanos ((Moment.ofDate_first_lt_iff hfirst hlast).2 hgt).ne'
  rw [startsIn_eq hfirst hlast, hinjective.encard_image, ← Finset.coe_Ioc,
    Set.encard_coe_eq_coe_finsetCard, Int.card_Ioc]

/-- **Fiscal years count their starts**: they grow with time, and those of two moments differ by
the number of starts between the moments. -/
theorem ofDate_sub_eq_iff (h : m.nanos ≤ n.nanos) :
    ofDate startMonth m.date ≤ ofDate startMonth n.date ∧
      ∀ k : Nat, ofDate startMonth n.date - ofDate startMonth m.date = k ↔
        (startsIn startMonth m n).encard = k := by
  have hmono := startYear_mono hfirst hlast h
  rw [ofDate_eq hfirst, ofDate_eq hfirst, encard_startsIn hfirst hlast]
  refine ⟨by omega, fun k => ?_⟩
  rw [Nat.cast_inj]
  omega

end Starts

/-! ## Years of columns -/

/-- What the cells of a column say, each read on its own. -/
def readings : Column → List CellDate
  | .moments cells => cells.map fun cell => ⟨cell, false⟩
  | column => column.values.map CellDate.ofValue

/-- Whether a column has a cell that is told to the nanosecond. -/
def isFine (column : Column) : Bool := (readings column).any (·.isFine)

/-- Whether the moment of a cell, if it has one, can be kept to the precision of a column. -/
def KeptIn (column : Column) (c : CellDate) : Prop :=
  isFine column = true → ∀ m ∈ c.moment, CellDate.FitsNanos m

instance (column : Column) (c : CellDate) : Decidable (KeptIn column c) := by
  unfold KeptIn
  infer_instance

/-- The fiscal year of a cell on its own: that of its date, and the current one without a date. -/
def yearOf (startMonth : Nat) (currentYear : Int) (c : CellDate) : Int :=
  c.moment.elim currentYear fun m => ofDate startMonth m.date

theorem filter_moment (column : Column) (c : CellDate) :
    (c.moment.filter fun m => ¬ isFine column ∨ CellDate.FitsNanos m) =
      if KeptIn column c then c.moment else none := by
  obtain ⟨moment, fine⟩ := c
  cases moment with
  | none => simp
  | some m =>
    have hkept : (¬ isFine column ∨ CellDate.FitsNanos m) ↔ KeptIn column ⟨some m, fine⟩ := by
      cases hfine : isFine column <;> simp [KeptIn, hfine]
    by_cases h : KeptIn column ⟨some m, fine⟩
    · rw [if_pos h, Option.filter_some_pos (by simpa using hkept.2 h)]
    · rw [if_neg h, Option.filter_some_neg (by simpa using mt hkept.1 h)]

theorem datesOf_eq (column : Column) :
    datesOf column = (readings column).map fun c =>
      (if KeptIn column c then c.moment else none).map Moment.date := by
  simp only [← filter_moment]
  cases column with
  | moments cells =>
    have hcoarse : isFine (.moments cells) = false := by simp [isFine, readings]
    rw [readings, datesOf, List.map_map]
    refine List.map_congr_left fun cell _ => ?_
    cases cell <;> simp [hcoarse, Option.filter]
  | _ => rfl

theorem ofColumn_eq (startMonth : Nat) {now : ClockReading} {currentYear : Int}
    (h : calendarYear now = .ok currentYear) (column : Column) :
    ofColumn startMonth now column = .ok ((readings column).map fun c =>
      if KeptIn column c then yearOf startMonth currentYear c else currentYear) := by
  rw [ofColumn, h, Outcome.ok_bind, datesOf_eq, List.map_map]
  refine congrArg Except.ok (List.map_congr_left fun c _ => ?_)
  rw [Function.comp_apply, yearOf]
  split
  · rw [Option.elim_map]
    rfl
  · rfl

/-- **Fiscal years tile time.** Each cell of a column has the year of its own date, and the current
one if it has none, as long as its moment can be kept to the precision of the column; otherwise it
has the current year as well. The years of two dates grow with their moments, and differ by `k`
exactly if `k` years start behind the first moment and up to the second. -/
theorem ofColumn_tiles {startMonth : Nat} (hfirst : 1 ≤ startMonth) (hlast : startMonth ≤ 12)
    {now : ClockReading} {currentYear : Int} (hnow : calendarYear now = .ok currentYear) :
    (∀ column, ofColumn startMonth now column = .ok ((readings column).map fun c =>
      if KeptIn column c then yearOf startMonth currentYear c else currentYear)) ∧
    (∀ c, c.moment = none → yearOf startMonth currentYear c = currentYear) ∧
    ∀ c d m n, c.moment = some m → d.moment = some n → m.nanos ≤ n.nanos →
      yearOf startMonth currentYear c ≤ yearOf startMonth currentYear d ∧
        ∀ k : Nat, yearOf startMonth currentYear d - yearOf startMonth currentYear c = k ↔
          (startsIn startMonth m n).encard = k := by
  refine ⟨ofColumn_eq startMonth hnow, fun c hc => by rw [yearOf, hc]; rfl, ?_⟩
  intro c d m n hc hd hle
  rw [yearOf, yearOf, hc, hd]
  exact ofDate_sub_eq_iff hfirst hlast hle

/-- A clock at noon of the 15th of January 2025. -/
def noon : ClockReading := ⟨(Moment.ofDate ⟨2025, 1, 15⟩).after 43200000000000, some 0⟩

/-- Half an hour before the end of October 2024 in a zone five hours behind UTC, nothing, and the
last of October two years later. -/
def octobers : Column := .texts [some "2024-10-31T23:30:00-05:00", none, some "10/31/2026"]

theorem ofColumn_tiles_octobers :
    ∃ m n, readings octobers = [⟨some m, false⟩, ⟨none, false⟩, ⟨some n, false⟩] ∧
      m.nanos ≤ n.nanos ∧ ofColumn 11 noon octobers = .ok [2025, 2025, 2026] ∧
      (startsIn 11 m n).encard = 1 := by
  have hnow : calendarYear noon = .ok 2025 := by decide
  obtain ⟨hyears, -, htile⟩ := @ofColumn_tiles 11 (by decide) (by decide) _ _ hnow
  have hread : readings octobers = [⟨some ⟨1730435400000000000⟩, false⟩, ⟨none, false⟩,
      ⟨some ⟨1793404800000000000⟩, false⟩] := by
    decide +kernel
  refine ⟨_, _, hread, by decide, (hyears octobers).trans (by decide +kernel), ?_⟩
  have hstarts := (htile ⟨some ⟨1730435400000000000⟩, false⟩ ⟨some ⟨1793404800000000000⟩, false⟩
    _ _ rfl rfl (by decide)).2 1
  exact hstarts.1 (by decide)

/-- The year of a date may depend on the other cells of its column: beside one that is told to the
nanosecond, a date beyond the range of nanoseconds has the current year. -/
theorem exists_year_of_other_cell :
    ¬ ∀ (startMonth : Nat) (now : ClockReading) (cells : List (Option String)) (years : List Int)
        (i : Nat) (s : String) (year : Int), 1 ≤ startMonth → startMonth ≤ 12 →
      ofColumn startMonth now (.texts cells) = .ok years → cells[i]? = some (some s) →
      ofColumn startMonth now (.texts [some s]) = .ok [year] → years[i]? = some year := by
  intro h
  have hyears : ofColumn 1 noon
      (.texts [some "2026-03-01T08:00:00.1234567Z", some "9999-12-31"]) = .ok [2026, 2025] := by
    decide +kernel
  have halone : ofColumn 1 noon (.texts [some "9999-12-31"]) = .ok [9999] := by decide +kernel
  have hsame := h 1 noon _ _ 1 _ _ (by decide) (by decide) hyears rfl halone
  exact absurd hsame (by decide)

end Reporting.FiscalYear
