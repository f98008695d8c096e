import Reporting.Proofs.Completion
import Reporting.Proofs.Run

/-!
# Which insights a table has

The insights about a metric are found one by one, each of its kind or not at all
(`Insight.trend?_cases` and its siblings), and what is found keeps the order of the kinds. So the
insights of a table are some of those, then the one on its quality (`Insights.build_arranged`): a
table of two rows or more has a trend, one with another column has drivers, and a run without rows
has nothing but the note that there are none.
-/

namespace Reporting

open Outcome

namespace Insight

/-- The kinds of the insights about a metric, in their order. -/
def metricKinds : List InsightKind := [.trend, .driver, .anomaly, .forecast]

/-- The note on a run without rows. -/
def noRows : Insight where
  kind := .quality
  title := "Data quality"
  detail := "No rows returned for this view. Adjust filters or parameters to retrieve data."

/-! ## Insights one by one -/

section Cases

variable {columns : List String} {rows : List Row} {metric : String} {found : Option Insight}

/-- There is a trend from two rows on. -/
theorem trend?_cases (h : trend? rows metric = .ok found) :
    (rows.length < 2 ∧ found = none) ∨
      (2 ≤ rows.length ∧ ∃ direction size before after, found = some {
        kind := .trend
        title := "Trend summary"
        detail := metric ++ " " ++ direction ++ " by " ++ size
          ++ "% across the selected period (" ++ before ++ " to " ++ after ++ ")." }) := by
  obtain ⟨numbers, hnumbers, h⟩ := bind_eq_ok.1 h
  have hlength := length_of_mapM hnumbers
  split at h
  · next first second later =>
    obtain ⟨delta, -, h⟩ := bind_eq_ok.1 h
    obtain ⟨change, -, h⟩ := bind_eq_ok.1 h
    obtain ⟨size, -, h⟩ := bind_eq_ok.1 h
    obtain ⟨before, -, h⟩ := bind_eq_ok.1 h
    obtain ⟨after, -, h⟩ := bind_eq_ok.1 h
    refine .inr ⟨?_, _, size, before, after, (pure_eq_ok.1 h).symm⟩
    rw [← hlength, List.length_cons, List.length_cons]
    omega
  · next hshort =>
    refine .inl ⟨?_, (pure_eq_ok.1 h).symm⟩
    rw [← hlength]
    match numbers with
    | [] => exact Nat.zero_lt_two
    | [_] => exact Nat.one_lt_two
    | first :: second :: later => exact absurd rfl (hshort first second later)

theorem isSome_dimension?_iff :
    (dimension? columns metric).isSome ↔ ∃ column ∈ columns, column ≠ metric := by
  simp [dimension?]

/-- There are drivers if there are rows and another column than the metric. -/
theorem driver?_cases (h : driver? columns rows metric = .ok found) :
    (¬ (rows ≠ [] ∧ ∃ column ∈ columns, column ≠ metric) ∧ found = none) ∨
      ((rows ≠ [] ∧ ∃ column ∈ columns, column ≠ metric) ∧ ∃ listed, found = some {
        kind := .driver
        title := "Top drivers"
        detail := "Largest contributors are " ++ listed ++ "." }) := by
  rw [← isSome_dimension?_iff]
  unfold driver? at h
  split at h
  · next hempty =>
    exact .inl ⟨fun hdriver => hdriver.1 (List.isEmpty_iff.1 hempty), (pure_eq_ok.1 h).symm⟩
  · next hrows =>
    split at h
    · next hnone => exact .inl ⟨by simp [hnone], (pure_eq_ok.1 h).symm⟩
    · next dimension hdimension =>
      obtain ⟨labelled, -, h⟩ := bind_eq_ok.1 h
      obtain ⟨listed, -, h⟩ := bind_eq_ok.1 h
      exact .inr ⟨⟨mt List.isEmpty_iff.2 hrows, by simp [hdimension]⟩, _, (pure_eq_ok.1 h).symm⟩

/-- There are anomalies only from four rows on. -/
theorem anomaly?_cases (h : anomaly? columns rows metric = .ok found) :
    found = none ∨ (anomalyRows ≤ rows.length ∧ ∃ listed, found = some {
      kind := .anomaly
      title := "Anomaly detection"
      detail := "Detected outliers in " ++ metric ++ ": " ++ listed ++ "." }) := by
  obtain ⟨numbers, hnumbers, h⟩ := bind_eq_ok.1 h
  have hlength := length_of_mapM hnumbers
  split at h
  · exact .inl (pure_eq_ok.1 h).symm
  · next hmany =>
    obtain ⟨center, -, h⟩ := bind_eq_ok.1 h
    obtain ⟨spread, -, h⟩ := bind_eq_ok.1 h
    split at h
    · exact .inl (pure_eq_ok.1 h).symm
    · obtain ⟨marked, -, h⟩ := bind_eq_ok.1 h
      dsimp only at h
      split at h
      · exact .inl (pure_eq_ok.1 h).symm
      · obtain ⟨listed, -, h⟩ := bind_eq_ok.1 h
        exact .inr ⟨hlength ▸ Nat.le_of_not_lt hmany, _, (pure_eq_ok.1 h).symm⟩

/-- There is a forecast only from two rows on. -/
theorem forecast?_cases (h : forecast? rows metric = .ok found) :
    found = none ∨ (2 ≤ rows.length ∧ ∃ amount, found = some {
      kind := .forecast
      title := "Forecast hint"
      detail := "Simple linear projection indicates next period " ++ metric ++ " at " ++ amount
        ++ "." }) := by
  obtain ⟨numbers, hnumbers, h⟩ := bind_eq_ok.1 h
  have hlength := length_of_mapM hnumbers
  obtain ⟨next, hnext, h⟩ := bind_eq_ok.1 h
  split at h
  · split at h
    · obtain ⟨amount, -, h⟩ := bind_eq_ok.1 h
      refine .inr ⟨?_, amount, (pure_eq_ok.1 h).symm⟩
      unfold Statistics.forecast at hnext
      split at hnext
      · cases hnext
      · next hmany => exact hlength ▸ Nat.le_of_not_lt hmany
    · exact .inl (pure_eq_ok.1 h).symm
  · exact .inl (pure_eq_ok.1 h).symm

end Cases

@[simp] theorem kind_quality (rawRows : List Row) : (quality rawRows).kind = .quality := by
  unfold quality
  split <;> rfl

/-! ## Insights in their order -/

/-- Whether an insight, if there is one, is of a kind. -/
def IsOf (kind : InsightKind) (found : Option Insight) : Prop :=
  ∀ insight ∈ found, insight.kind = kind

/-- Insights that are found kind by kind have those kinds for which there is one. -/
theorem map_kind_filterMap {kinds : List InsightKind} {found : List (Option Insight)}
    (h : List.Forall₂ IsOf kinds found) :
    (found.filterMap id).map (·.kind) =
      ((kinds.zip found).filter (·.2.isSome)).map Prod.fst := by
  induction h with
  | nil => rfl
  | @cons kind o kinds found hkind _ ih =>
    cases o with
    | none => simpa using ih
    | some insight => simpa [hkind insight rfl] using ih

end Insight

namespace Insights

open Insight

/-- The metric that insights speak of: the primary one, unless its name is empty. -/
def IsMetric (columns : List String) (rows : List Row) (metric : String) : Prop :=
  primaryMetric? columns rows = some metric ∧ metric ≠ ""

instance (columns : List String) (rows : List Row) (metric : String) :
    Decidable (IsMetric columns rows metric) := by
  unfold IsMetric
  infer_instance

/-- The insights of a table with given columns and rows, made from raw rows: which kinds there are,
in which order, and what the summary says. -/
structure IsArranged (columns : List String) (rows rawRows : List Row) (insights : Insights) :
    Prop where
  order : ∃ kinds, kinds.Sublist metricKinds ∧
    insights.bullets.map (·.kind) = kinds ++ [.quality]
  quality : insights.bullets.getLast? = some (Insight.quality rawRows)
  alone : (¬ ∃ metric, IsMetric columns rows metric) →
    insights.bullets = [Insight.quality rawRows]
  trend_iff : .trend ∈ insights.bullets.map (·.kind) ↔
    (∃ metric, IsMetric columns rows metric) ∧ 2 ≤ rows.length
  driver_iff : .driver ∈ insights.bullets.map (·.kind) ↔
    ∃ metric, IsMetric columns rows metric ∧ ∃ column ∈ columns, column ≠ metric
  anomaly : .anomaly ∈ insights.bullets.map (·.kind) → 4 ≤ rows.length
  forecast : .forecast ∈ insights.bullets.map (·.kind) → 2 ≤ rows.length
  summary : insights.summary = String.intercalate " "
    ((insights.bullets.take (min 3 insights.bullets.length)).map (·.detail))

variable {columns : List String} {rows rawRows : List Row} {metric : String} {insights : Insights}

/-- No two insights of a table are of one kind. -/
theorem IsArranged.nodup_kinds (h : IsArranged columns rows rawRows insights) :
    (insights.bullets.map (·.kind)).Nodup := by
  obtain ⟨kinds, hkinds, horder⟩ := h.order
  have hall : (metricKinds ++ [InsightKind.quality]).Nodup := by decide
  rw [horder]
  exact hall.sublist (hkinds.append_right _)

theorem IsMetric.ne_nil (h : IsMetric columns rows metric) : rows ≠ [] := by
  rintro rfl
  have hholds := List.find?_some h.1
  simp at hholds

/-- What is found about a metric, kind by kind. -/
structure FindsOfMetric (columns : List String) (rows : List Row) (metric : String)
    (trend driver anomaly forecast : Option Insight) : Prop where
  trend : trend? rows metric = .ok trend
  driver : driver? columns rows metric = .ok driver
  anomaly : anomaly? columns rows metric = .ok anomaly
  forecast : forecast? rows metric = .ok forecast

theorem ofMetric_inv {about : List Insight} (h : ofMetric columns rows metric = .ok about) :
    ∃ trend driver anomaly forecast,
      FindsOfMetric columns rows metric trend driver anomaly forecast ∧
        about = [trend, driver, anomaly, forecast].filterMap id := by
  obtain ⟨trend, htrend, h⟩ := bind_eq_ok.1 h
  obtain ⟨driver, hdriver, h⟩ := bind_eq_ok.1 h
  obtain ⟨anomaly, hanomaly, h⟩ := bind_eq_ok.1 h
  obtain ⟨forecast, hforecast, h⟩ := bind_eq_ok.1 h
  exact ⟨trend, driver, anomaly, forecast, ⟨htrend, hdriver, hanomaly, hforecast⟩,
    (pure_eq_ok.1 h).symm⟩

/-- What is found is of its kind. -/
theorem FindsOfMetric.isOf {trend driver anomaly forecast : Option Insight}
    (h : FindsOfMetric columns rows metric trend driver anomaly forecast) :
    List.Forall₂ IsOf metricKinds [trend, driver, anomaly, forecast] := by
  refine .cons ?_ (.cons ?_ (.cons ?_ (.cons ?_ .nil))) <;> rintro insight rfl
  · obtain ⟨-, hnone⟩ | ⟨-, _, _, _, _, hsome⟩ := trend?_cases h.trend
    · cases hnone
    · rw [Option.some.inj hsome]
  · obtain ⟨-, hnone⟩ | ⟨-, _, hsome⟩ := driver?_cases h.driver
    · cases hnone
    · rw [Option.some.inj hsome]
  · obtain hnone | ⟨-, _, hsome⟩ := anomaly?_cases h.anomaly
    · cases hnone
    · rw [Option.some.inj hsome]
  · obtain hnone | ⟨-, _, hsome⟩ := forecast?_cases h.forecast
    · cases hnone
    · rw [Option.some.inj hsome]

theorem FindsOfMetric.mem_kinds_iff {trend driver anomaly forecast : Option Insight}
    (h : FindsOfMetric columns rows metric trend driver anomaly forecast) (kind : InsightKind) :
    kind ∈ ([trend, driver, anomaly, forecast].filterMap id).map (·.kind) ↔
      ∃ found ∈ metricKinds.zip [trend, driver, anomaly, forecast],
        found.2.isSome = true ∧ found.1 = kind := by
  rw [map_kind_filterMap h.isOf, List.mem_map]
  exact exists_congr fun found => by rw [List.mem_filter, and_assoc]

/-- What is found about a metric, as a list: the kinds in order, and which are there when. -/
structure TellsOfMetric (columns : List String) (rows : List Row) (metric : String)
    (about : List Insight) : Prop where
  order : (about.map (·.kind)).Sublist metricKinds
  trend_iff : .trend ∈ about.map (·.kind) ↔ 2 ≤ rows.length
  driver_iff : .driver ∈ about.map (·.kind) ↔ rows ≠ [] ∧ ∃ column ∈ columns, column ≠ metric
  anomaly : .anomaly ∈ about.map (·.kind) → 4 ≤ rows.length
  forecast : .forecast ∈ about.map (·.kind) → 2 ≤ rows.length

theorem tellsOfMetric {about : List Insight} (h : ofMetric columns rows metric = .ok about) :
    TellsOfMetric columns rows metric about := by
  obtain ⟨trend, driver, anomaly, forecast, hfinds, rfl⟩ := ofMetric_inv h
  refine ⟨?_, ?_, ?_, ?_, ?_⟩
  · have hkinds : (metricKinds.zip [trend, driver, anomaly, forecast]).map Prod.fst = metricKinds :=
      List.map_fst_zip le_rfl
    rw [map_kind_filterMap hfinds.isOf]
    exact hkinds ▸ List.filter_sublist.map Prod.fst
  · rw [hfinds.mem_kinds_iff]
    obtain ⟨hfew, rfl⟩ | ⟨hmany, _, _, _, _, rfl⟩ := trend?_cases hfinds.trend
    · simp [metricKinds, hfew]
    · simp [metricKinds, hmany]
  · rw [hfinds.mem_kinds_iff]
    obtain ⟨hnone, rfl⟩ | ⟨hsome, _, rfl⟩ := driver?_cases hfinds.driver
    · exact iff_of_false (by simp [metricKinds]) hnone
    · exact iff_of_true (by simp [metricKinds]) hsome
  · rw [hfinds.mem_kinds_iff]
    obtain rfl | ⟨hmany, -⟩ := anomaly?_cases hfinds.anomaly
    · simp [metricKinds]
    · exact fun _ => hmany
  · rw [hfinds.mem_kinds_iff]
    obtain rfl | ⟨hmany, -⟩ := forecast?_cases hfinds.forecast
    · simp [metricKinds]
    · exact fun _ => hmany

/-! ## All insights of a table -/

/-- What a table that is described has, with its metric or without one. -/
theorem build_inv (h : build columns rows rawRows = .ok insights) :
    ∃ about, insights = ⟨about ++ [Insight.quality rawRows],
        summarize (about ++ [Insight.quality rawRows])⟩ ∧
      ((∃ metric, IsMetric columns rows metric ∧ ofMetric columns rows metric = .ok about) ∨
        (¬ ∃ metric, IsMetric columns rows metric) ∧ about = []) := by
  have hmetric : ∀ metric,
      (primaryMetric? columns rows).filter (· ≠ "") = some metric ↔
        IsMetric columns rows metric := by
    intro metric
    rw [Option.filter_eq_some_iff, IsMetric, decide_eq_true_iff]
  unfold build at h
  split at h
  · next metric hfound =>
    obtain ⟨about, habout, h⟩ := bind_eq_ok.1 h
    exact ⟨about, (pure_eq_ok.1 h).symm, .inl ⟨metric, (hmetric metric).1 hfound, habout⟩⟩
  · next hnone =>
    refine ⟨[], (pure_eq_ok.1 h).symm, .inr ⟨?_, rfl⟩⟩
    rintro ⟨metric, hfound⟩
    exact nomatch hnone.symm.trans ((hmetric metric).2 hfound)

theorem summarize_append_singleton (about : List Insight) (insight : Insight) :
    summarize (about ++ [insight]) = String.intercalate " "
      (((about ++ [insight]).take (min 3 (about ++ [insight]).length)).map (·.detail)) := by
  have hsome : (about ++ [insight]).isEmpty = false := by simp
  have htake : (about ++ [insight]).take 3 =
      (about ++ [insight]).take (min 3 (about ++ [insight]).length) :=
    List.take_eq_take_iff.2 (by rw [Nat.min_assoc, Nat.min_self])
  rw [summarize, hsome, if_neg Bool.false_ne_true, summaryCount, htake]

/-- The insights of a table are arranged. -/
theorem isArranged_of_build (h : build columns rows rawRows = .ok insights) :
    IsArranged columns rows rawRows insights := by
  obtain ⟨about, rfl, ⟨metric, hmetric, habout⟩ | ⟨hnone, rfl⟩⟩ := build_inv h
  · have hunique : ∀ other, IsMetric columns rows other → other = metric := fun other hother =>
      Option.some.inj (hother.1.symm.trans hmetric.1)
    have htells := tellsOfMetric habout
    exact {
      order := ⟨_, htells.order, by simp⟩
      quality := by simp
      alone := fun hnone => absurd ⟨metric, hmetric⟩ hnone
      trend_iff := by
        rw [and_iff_right ⟨metric, hmetric⟩, ← htells.trend_iff]
        simp
      driver_iff := by
        have hother : (∃ metric, IsMetric columns rows metric ∧
            ∃ column ∈ columns, column ≠ metric) ↔ ∃ column ∈ columns, column ≠ metric :=
          ⟨fun ⟨_, hfound, hcolumn⟩ => hunique _ hfound ▸ hcolumn, fun h => ⟨metric, hmetric, h⟩⟩
        rw [hother, ← htells.driver_iff.trans (and_iff_right hmetric.ne_nil)]
        simp
      anomaly := by simpa using htells.anomaly
      forecast := by simpa using htells.forecast
      summary := summarize_append_singleton about _ }
  · exact {
      order := ⟨[], List.nil_sublist _, by simp⟩
      quality := rfl
      alone := fun _ => rfl
      trend_iff := iff_of_false (by simp) fun h => hnone h.1
      driver_iff := iff_of_false (by simp) fun ⟨metric, h, _⟩ => hnone ⟨metric, h⟩
      anomaly := by simp
      forecast := by simp
      summary := summarize_append_singleton [] _ }

theorem build_nil (columns : List String) :
    build columns [] [] = .ok ⟨[Insight.noRows], Insight.noRows.detail⟩ := by
  have hnone : primaryMetric? columns [] = none := by simp [primaryMetric?]
  rw [build, hnone]
  rfl

end Insights

/-! ## Runs without rows -/

/-- A run whose filters keep no row has one insight, that there are none. -/
theorem runView_insights_of_keep_nil (defaultPageSize : Int) (clock : Outcome Moment)
    {rows : List Row} {view : View} (calculations : List Calculation) {input : RunInput}
    (h : Filter.keep (view.appliedFilters input.filters input.parameters) rows = .ok []) :
    (runView defaultPageSize clock rows view calculations input).map (·.insights) =
      (clock >>= Moment.toIso).map fun _ => ⟨[Insight.noRows], Insight.noRows.detail⟩ := by
  have hempty : IsReadableTable [] := isReadableTable_of_isPlain (by decide) (by simp)
  have hrows : Table.allRows view calculations [] = .ok [] := by
    simp [Table.allRows, groupRows, Grouping.groups, firsts, Calculation.applyAll,
      SortRule.sortRows, SortRule.firstFailure?]
  obtain ⟨totals, htotals, -⟩ := hempty.yields_columnTotals (Table.metricColumns view calculations)
  obtain ⟨charts, hcharts, -⟩ := Chart.yields_buildAll hempty view.visuals
  rw [runView_eq_runWhole, runWhole]
  simp only [h, ok_bind, hrows, htotals, hcharts, Insights.build_nil]
  cases clock with
  | error failure => rfl
  | ok now =>
    rw [ok_bind, ok_bind]
    cases now.toIso <;> rfl

/-- **Which insights there are.** The insights of a table are some of trend, drivers, anomalies and
forecast, in this order, and then the one on its quality; the columns and the number of rows tell
which. A run whose filters keep no row has the note that there are none, and fails only if the
moment of its clock cannot be written. -/
theorem Insights.build_arranged :
    (∀ columns rows rawRows insights, build columns rows rawRows = .ok insights →
      IsArranged columns rows rawRows insights) ∧
    ∀ defaultPageSize clock rows view calculations input,
      Filter.keep (view.appliedFilters input.filters input.parameters) rows = .ok [] →
        (runView defaultPageSize clock rows view calculations input).map (·.insights) =
          (clock >>= Moment.toIso).map fun _ => ⟨[Insight.noRows], Insight.noRows.detail⟩ :=
  ⟨fun _ _ _ _ => isArranged_of_build, fun defaultPageSize clock _ _ calculations _ =>
    runView_insights_of_keep_nil defaultPageSize clock calculations⟩

/-- Sales of half a year. -/
def halfYear : List Row :=
  [("January", 10), ("February", 20), ("March", 10), ("April", 30), ("May", 10),
    ("June", 100)].map fun sale => .ofList [("month", .text sale.1), ("sales", .int sale.2)]

/-- Sales above 100, by month. -/
def largeSales : View :=
  { monthlySales with
    rowFields := ["month"]
    columnFields := []
    filters := [⟨"sales", "gt", .int 100⟩] }

theorem Insights.build_arranged_halfYear :
    (∃ insights, build ["month", "sales"] halfYear halfYear = .ok insights ∧
      IsArranged ["month", "sales"] halfYear halfYear insights ∧
      .trend ∈ insights.bullets.map (·.kind) ∧ .driver ∈ insights.bullets.map (·.kind)) ∧
    (runView 25 (.ok ⟨0⟩) halfYear largeSales [] .plain).map (·.insights) =
      .ok ⟨[Insight.noRows], Insight.noRows.detail⟩ := by
  have hreadable : IsReadableTable halfYear :=
    isReadableTable_of_isPlain (by decide) (by decide +kernel)
  have hmetric : IsMetric ["month", "sales"] halfYear "sales" := by decide +kernel
  have hkept : Filter.keep (largeSales.appliedFilters none .empty) halfYear = .ok [] := by
    decide +kernel
  obtain ⟨insights, hbuild, -⟩ := Insights.yields_build hreadable ["month", "sales"] halfYear
  have harranged := build_arranged.1 _ _ _ _ hbuild
  refine ⟨⟨insights, hbuild, harranged, ?_, ?_⟩, ?_⟩
  · exact harranged.trend_iff.2 ⟨⟨"sales", hmetric⟩, by decide⟩
  · exact harranged.driver_iff.2 ⟨"sales", hmetric, "month", by decide, by decide⟩
  · exact build_arranged.2 25 (.ok ⟨0⟩) halfYear largeSales [] .plain hkept

end Reporting
