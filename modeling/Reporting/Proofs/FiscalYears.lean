import Reporting.Proofs.Merging
import Reporting.Proofs.Sheets

/-!
# Fiscal years of loaded rows

Where no dataset has fiscal years of its own, those of the rows before merging are derived from
dates (`Registry.cell_of_mem_sourceRows`). Merging adds numbers up, fiscal years too: the fiscal
year of a loaded row is the sum of those of the rows that were folded into it
(`Registry.loadRows_years`). So it is derived if only one of them has one, and in general is not.
-/

namespace Reporting.Registry

/-! ## Rows before merging -/

/-- A dataset among those asked for that a principal may view, with its sheet. -/
structure Offers (registry : Registry) (p : Principal) (ids : List String) (d : Dataset)
    (sheet : Sheet) : Prop where
  asked : d.id ∈ ids
  stored : registry.datasets.get? d.id = some d
  viewable : d.permits p .view = true
  table : registry.sheets.get? d.id = some sheet

/-- A year that is derived for a date of such a dataset, from the column that it declares. -/
def DerivesYear (registry : Registry) (p : Principal) (ids : List String) (startMonth : Int)
    (now : ClockReading) (year : Int) : Prop :=
  ∃ d sheet field dates years, registry.Offers p ids d sheet ∧
    d.fiscalDateField = some field ∧ (namedSheet d.id sheet).column? field = some dates ∧
    FiscalYear.ofColumn startMonth now dates = .ok years ∧ year ∈ years

/-- No dataset asked for has a column of fiscal years in its sheet. -/
def WithoutYears (registry : Registry) (p : Principal) (ids : List String) : Prop :=
  ∀ d sheet, registry.Offers p ids d sheet → fiscalColumn ∉ sheet.names

/-- The rows of the datasets asked for that a principal may view, before any are merged. -/
def sourceRows (registry : Registry) (p : Principal) (ids : List String) (startMonth : Int)
    (now : ClockReading) : Outcome (List Row) :=
  ((ids.filter fun id => ((registry.accessible p .view).map (·.id)).contains id).mapM fun id =>
    registry.datasetRows id startMonth now).map List.flatten

/-- The rows that each loaded row is made of: one each for a single dataset, and else those of a
bucket. -/
def parts (ids : List String) (source : List Row) : List (List Row) :=
  if ids.length ≤ 1 then source.map ([·])
  else
    (firsts (source.zipIdx.map (Merge.bucketOf Merge.defaultKey))).map
      (Merge.members Merge.defaultKey 0 source)

section Load

variable {registry : Registry} {p : Principal} {ids : List String} {startMonth : Int}
  {now : ClockReading} {source rows : List Row} {row : Row}

/-- Rows are loaded by merging each part of them. -/
theorem exists_sourceRows (h : registry.loadRows p ids startMonth now = .ok rows) :
    ∃ source, registry.sourceRows p ids startMonth now = .ok source ∧
      List.Forall₂ (fun part row => Merge.merged part = .ok row) (parts ids source) rows := by
  rw [loadRows] at h
  obtain ⟨found, hfound, h⟩ := Outcome.bind_eq_ok.1 h
  refine ⟨found.flatten, Outcome.map_eq_ok.2 ⟨found, hfound, rfl⟩, ?_⟩
  rw [parts]
  split at h
  · next hsingle =>
    rw [if_pos hsingle, ← Outcome.pure_eq_ok.1 h, List.forall₂_map_left_iff, List.forall₂_same]
    exact fun row _ => rfl
  · next hseveral =>
    rw [if_neg hseveral, List.forall₂_map_left_iff]
    exact Outcome.mapM_eq_ok.1 (Merge.mergeRows_eq_ok.1 h).2

theorem mem_of_mem_parts {part : List Row} (hpart : part ∈ parts ids source) (hrow : row ∈ part) :
    row ∈ source := by
  rw [parts] at hpart
  split at hpart
  · obtain ⟨other, hother, rfl⟩ := List.mem_map.1 hpart
    rwa [List.mem_singleton.1 hrow]
  · obtain ⟨name, -, rfl⟩ := List.mem_map.1 hpart
    obtain ⟨placed, hplaced, rfl⟩ := List.mem_map.1 hrow
    exact List.fst_mem_of_mem_zipIdx (mem_fiber.1 hplaced).1

/-- A row before merging is one of the sheet of a dataset as it is loaded. -/
theorem exists_offer_of_mem (h : registry.sourceRows p ids startMonth now = .ok source)
    (hrow : row ∈ source) :
    ∃ d sheet loaded i, registry.Offers p ids d sheet ∧
      LoadedAs d.id d sheet startMonth now loaded ∧ row = loaded.row i := by
  obtain ⟨found, hfound, rfl⟩ := Outcome.map_eq_ok.1 h
  obtain ⟨value, rfl, hvalue⟩ := Outcome.exists_map_of_mapM hfound
  obtain ⟨_, hmem, hrow⟩ := List.mem_flatten.1 hrow
  obtain ⟨id, hid, rfl⟩ := List.mem_map.1 hmem
  obtain ⟨hasked, hallowed⟩ := List.mem_filter.1 hid
  obtain ⟨d, hd, hpermits⟩ := mem_map_id_accessible.1 (List.contains_iff_mem.1 hallowed)
  obtain rfl := registry.id_of_get? hd
  have hrows := hvalue _ hid
  rw [datasetRows, hd] at hrows
  cases hsheet : registry.sheets.get? d.id with
  | none =>
    rw [hsheet] at hrows
    rw [← Except.ok.inj hrows] at hrow
    cases hrow
  | some sheet =>
    rw [hsheet] at hrows
    obtain ⟨loaded, hloaded, hrows⟩ := Outcome.bind_eq_ok.1 hrows
    rw [← Outcome.pure_eq_ok.1 hrows, Sheet.records_eq] at hrow
    obtain ⟨i, -, rfl⟩ := List.mem_map.1 hrow
    exact ⟨d, sheet, loaded, i, ⟨hasked, hd, hpermits, hsheet⟩,
      (loadedAs_of_loadedSheet hloaded).2, rfl⟩

/-- The fiscal year of a row before merging is derived, unless it has none. -/
theorem cell_of_mem_sourceRows (hwithout : registry.WithoutYears p ids)
    (h : registry.sourceRows p ids startMonth now = .ok source) (hrow : row ∈ source) :
    row.cell fiscalColumn = .null ∨ ∃ year, row.cell fiscalColumn = .int year ∧
      registry.DerivesYear p ids startMonth now year := by
  obtain ⟨d, sheet, loaded, i, hoffer, hloaded, rfl⟩ := exists_offer_of_mem h hrow
  have habsent : fiscalColumn ∉ (namedSheet d.id sheet).names := by
    intro hmem
    rcases List.mem_cons.1 hmem with hname | hmem
    · exact absurd (show fiscalColumn = datasetColumn from hname) (by decide)
    · exact hwithout d sheet hoffer hmem
  rw [Keyed.cell]
  cases hget : (loaded.row i).get? fiscalColumn with
  | none => exact .inl rfl
  | some value =>
    obtain ⟨column, hcolumn, rfl⟩ := Sheet.exists_column_of_get?_row hget
    cases hloaded with
    | named => exact absurd (Sheet.mem_names hcolumn) habsent
    | @dated field dates years declared hdates hyears fresh =>
      rcases List.mem_append.1 hcolumn with hmem | hmem
      · exact absurd (Sheet.mem_names hmem) habsent
      · obtain ⟨-, rfl⟩ := Prod.mk.inj (List.mem_singleton.1 hmem)
        by_cases hi : i < years.length
        · refine .inr ⟨years[i], ?_, d, sheet, field, dates, years, hoffer, declared, hdates,
            hyears, List.getElem_mem hi⟩
          simp [Column.cells, Column.values, hi, Value.int, Column.finiteCell]
        · left
          simp [Column.cells, Column.values, Nat.le_of_not_lt hi]

/-! ## Loaded rows -/

/-- The fiscal years of rows. -/
def yearsOf (part : List Row) : List Int := Merge.amounts fiscalColumn part

/-- The fiscal year of a row, if it is a number, is one that is derived. -/
def HasDerivedYear (registry : Registry) (p : Principal) (ids : List String) (startMonth : Int)
    (now : ClockReading) (row : Row) : Prop :=
  ∀ n, row.get? fiscalColumn = some (.number n) →
    ∃ year, n = .int year ∧ registry.DerivesYear p ids startMonth now year

/-- A row that is loaded of some rows before merging: its fiscal year is the sum of theirs, which
are derived. -/
structure AddsYears (registry : Registry) (p : Principal) (ids : List String) (startMonth : Int)
    (now : ClockReading) (part : List Row) (row : Row) : Prop where
  merged : Merge.merged part = .ok row
  derived : ∀ year ∈ yearsOf part, registry.DerivesYear p ids startMonth now year
  number_iff : ∀ n, row.get? fiscalColumn = some (.number n) ↔
    yearsOf part ≠ [] ∧ n = .int (yearsOf part).sum

theorem AddsYears.hasDerivedYear {part : List Row}
    (h : registry.AddsYears p ids startMonth now part row) (hpart : (yearsOf part).length ≤ 1) :
    registry.HasDerivedYear p ids startMonth now row := by
  intro n hn
  obtain ⟨hne, rfl⟩ := (h.number_iff n).1 hn
  obtain ⟨year, hyear⟩ := List.length_eq_one_iff.1
    (Nat.le_antisymm hpart (List.length_pos_of_ne_nil hne))
  rw [hyear, List.sum_singleton]
  exact ⟨year, rfl, h.derived year (by simp [hyear])⟩

theorem addsYears (hwithout : registry.WithoutYears p ids)
    (h : registry.sourceRows p ids startMonth now = .ok source) {part : List Row}
    (hpart : part ∈ parts ids source) (hmerged : Merge.merged part = .ok row) :
    registry.AddsYears p ids startMonth now part row := by
  have hcell : ∀ other ∈ part, other.cell fiscalColumn = .null ∨
      ∃ year, other.cell fiscalColumn = .int year ∧
        registry.DerivesYear p ids startMonth now year :=
    fun other hother => cell_of_mem_sourceRows hwithout h (mem_of_mem_parts hpart hother)
  have hamounts : ∀ other ∈ part, Merge.IsAmount (other.cell fiscalColumn) := by
    intro other hother
    obtain hnull | ⟨year, hyear, -⟩ := hcell other hother
    · exact hnull ▸ .null
    · exact hyear ▸ .int year
  obtain ⟨hamount, htotal⟩ := Merge.amount?_merged hamounts hmerged
  refine ⟨hmerged, fun year hyear => ?_, fun n => ⟨fun hn => ?_, ?_⟩⟩
  · obtain ⟨other, hother, hfound⟩ := List.mem_filterMap.1 hyear
    obtain hnull | ⟨derived, hderived, hyears⟩ := hcell other hother
    · rw [hnull] at hfound
      cases hfound
    · rw [hderived] at hfound
      exact Option.some.inj hfound ▸ hyears
  · rw [Keyed.cell, hn, Option.getD_some] at hamount htotal
    cases hamount with
    | int year =>
      obtain ⟨hne, hsum⟩ := Merge.total?_eq_some_iff.1 htotal.symm
      exact ⟨hne, congrArg Number.int hsum⟩
  · rintro ⟨hne, rfl⟩
    have hsum := Merge.amount?_eq_some_iff.1 (htotal.trans (Merge.total?_eq_some_iff.2 ⟨hne, rfl⟩))
    rw [Keyed.cell] at hsum
    cases hget : row.get? fiscalColumn with
    | none =>
      rw [hget] at hsum
      cases hsum
    | some value =>
      rw [hget] at hsum
      exact congrArg some hsum

/-- **The fiscal year of a loaded row is the sum of those of the rows that were folded into it**,
which are all derived, and is itself derived where a single dataset is loaded. -/
theorem loadRows_years (hwithout : registry.WithoutYears p ids)
    (h : registry.loadRows p ids startMonth now = .ok rows) :
    ∃ source, registry.sourceRows p ids startMonth now = .ok source ∧
      List.Forall₂ (registry.AddsYears p ids startMonth now) (parts ids source) rows ∧
      (ids.length ≤ 1 → ∀ row ∈ rows, registry.HasDerivedYear p ids startMonth now row) := by
  obtain ⟨source, hsource, hparts⟩ := exists_sourceRows h
  have hadds : List.Forall₂ (registry.AddsYears p ids startMonth now) (parts ids source) rows :=
    ((List.forall₂_and_left _ _).2 ⟨fun part hpart => hpart, hparts⟩).imp fun part row hpart =>
      addsYears hwithout hsource hpart.1 hpart.2
  refine ⟨source, hsource, hadds, fun hsingle row hrow => ?_⟩
  obtain ⟨part, hpart, hrow⟩ := Outcome.exists_of_mem_right hadds hrow
  rw [parts, if_pos hsingle] at hpart
  obtain ⟨other, -, rfl⟩ := List.mem_map.1 hpart
  exact hrow.hasDerivedYear (List.length_filterMap_le _ _)

end Load

/-! ## A garden -/

/-- A plan of a garden, with the day on which it starts. -/
def gardenPlan : Dataset := ⟨"plan", "Plan", "", [], [⟨["ADMIN"], .view⟩], some "start", ""⟩

/-- The cost of a garden, with the day on which it was paid. -/
def gardenCost : Dataset := ⟨"cost", "Cost", "", [], [⟨["ADMIN"], .view⟩], some "paid", ""⟩

/-- A garden with a day in a column of its own. -/
def gardenSheet (field day : String) : Sheet :=
  ⟨[("project_id", .texts [some "garden"]), (field, .texts [some day])]⟩

/-- The plan and the cost of a garden, both of days in 2024. -/
def gardenRegistry : Registry :=
  (empty.register gardenPlan (some (gardenSheet "start" "2024-03-01"))).register gardenCost
    (some (gardenSheet "paid" "2024-05-01"))

/-- An administrator. -/
def gardener : Principal := ⟨"root", none, "ADMIN"⟩

/-- The start of 1970. -/
def epoch : ClockReading := ⟨⟨0⟩, some 0⟩

theorem offers_garden {d : Dataset} {sheet : Sheet}
    (h : gardenRegistry.Offers gardener ["plan", "cost"] d sheet) :
    (d = gardenPlan ∧ sheet = gardenSheet "start" "2024-03-01") ∨
      (d = gardenCost ∧ sheet = gardenSheet "paid" "2024-05-01") := by
  obtain ⟨hasked, hstored, -, htable⟩ := h
  have hid : d.id = "plan" ∨ d.id = "cost" := by simpa using hasked
  obtain hid | hid := hid
  · rw [hid] at hstored htable
    exact .inl ⟨(Option.some.inj hstored).symm, (Option.some.inj htable).symm⟩
  · rw [hid] at hstored htable
    exact .inr ⟨(Option.some.inj hstored).symm, (Option.some.inj htable).symm⟩

theorem withoutYears_garden : gardenRegistry.WithoutYears gardener ["plan", "cost"] := by
  intro d sheet hoffer
  obtain ⟨-, rfl⟩ | ⟨-, rfl⟩ := offers_garden hoffer <;> decide

theorem derivesYear_garden {year : Int}
    (h : gardenRegistry.DerivesYear gardener ["plan", "cost"] 1 epoch year) : year = 2024 := by
  obtain ⟨d, sheet, field, dates, years, hoffer, hfield, hdates, hyears, hyear⟩ := h
  have hderived : ((namedSheet d.id sheet).column? field).map (FiscalYear.ofColumn 1 epoch) =
      some (.ok [2024]) := by
    obtain ⟨rfl, rfl⟩ | ⟨rfl, rfl⟩ := offers_garden hoffer
    · rw [← Option.some.inj hfield]
      decide +kernel
    · rw [← Option.some.inj hfield]
      decide +kernel
  rw [hdates, Option.map_some, hyears] at hderived
  rw [Except.ok.inj (Option.some.inj hderived)] at hyear
  exact List.mem_singleton.1 hyear

theorem years_garden :
    (gardenRegistry.loadRows gardener ["plan", "cost"] 1 epoch).map
      (fun rows => rows.map (·.get? fiscalColumn)) = .ok [some (.int 4048)] := by
  decide +kernel

theorem loadRows_years_garden :
    ∃ source rows, gardenRegistry.sourceRows gardener ["plan", "cost"] 1 epoch = .ok source ∧
      gardenRegistry.loadRows gardener ["plan", "cost"] 1 epoch = .ok rows ∧
      rows.map (·.get? fiscalColumn) = [some (.int 4048)] ∧
      List.Forall₂ (gardenRegistry.AddsYears gardener ["plan", "cost"] 1 epoch)
        (parts ["plan", "cost"] source) rows := by
  obtain ⟨rows, hrows, hyears⟩ := Outcome.map_eq_ok.1 years_garden
  obtain ⟨source, hsource, hadds, -⟩ := loadRows_years withoutYears_garden hrows
  exact ⟨source, rows, hsource, hrows, hyears, hadds⟩

/-- A fiscal year that is loaded need not be derived for any date. -/
theorem exists_year_not_derived :
    ¬ ∀ (registry : Registry) (p : Principal) (ids : List String) (startMonth : Int)
      (now : ClockReading) (rows : List Row), registry.WithoutYears p ids →
      registry.loadRows p ids startMonth now = .ok rows →
      ∀ row ∈ rows, registry.HasDerivedYear p ids startMonth now row := by
  intro h
  obtain ⟨rows, hrows, hyears⟩ := Outcome.map_eq_ok.1 years_garden
  obtain ⟨row, rfl, hrow⟩ := List.map_eq_singleton_iff.1 hyears
  obtain ⟨year, hyear, hderived⟩ :=
    h _ _ _ _ _ _ withoutYears_garden hrows row (by simp) _ hrow
  have hsum : (4048 : Int) = year := Number.int.inj hyear
  have hdate := derivesYear_garden hderived
  omega

end Reporting.Registry
