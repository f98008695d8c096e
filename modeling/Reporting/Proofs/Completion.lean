import Reporting.Proofs.TableCompletion

/-!
# Runs that are completed

Over a table that can be read all through, every chart is drawn (`Chart.yields_buildAll`) and every
sentence found (`Insights.yields_build`). So a run over plain rows is completed, unless an integer
too large for a double comes up on the way (`runView_completes`).
-/

namespace Reporting

open Outcome

/-! ## Charts -/

/-- A point of a row: it can be read, and no cell of it is larger than the row's own. -/
structure IsPointOf (row point : Row) : Prop where
  isReadable : point.IsReadable
  size_le : ∀ field, (point.cell field).size ≤ (row.cell field).size

namespace IsPointOf

variable {row point : Row}

theorem empty (row : Row) : IsPointOf row .empty where
  isReadable := Keyed.IsReadable.empty
  size_le _ := Nat.zero_le _

theorem put (h : IsPointOf row point) {field : String} {value : Value} (hvalue : value.IsReadable)
    (hsize : value.size ≤ (row.cell field).size) : IsPointOf row (point.put field value) where
  isReadable := h.isReadable.put hvalue
  size_le other := by
    rw [Keyed.cell_put]
    split
    · next heq => exact heq ▸ hsize
    · exact h.size_le other

end IsPointOf

namespace Chart

variable {row point : Row} (hrow : row.IsReadable) (field : Option String)

include hrow

theorem isPointOf_addCell (h : IsPointOf row point) : IsPointOf row (addCell row field point) := by
  rw [addCell]
  split
  · next name _ => exact h.put (hrow.cell name) (Nat.le_refl _)
  · exact h

theorem yields_addNumber (h : IsPointOf row point) :
    (addNumber row field point).Yields (IsPointOf row) := by
  rw [addNumber]
  split
  · next name _ =>
    have hcell := (hrow.cell name).fits
    refine hcell.yields_toNumber.map fun n hn => ?_
    exact h.put (Nat.lt_of_le_of_lt hn hcell) hn
  · exact yields_ok h

theorem yields_point (visual : Visual) : (Chart.point visual row).Yields (IsPointOf row) := by
  have hx := isPointOf_addCell hrow visual.xField (.empty row)
  refine (yields_addNumber hrow visual.yField hx).bind fun withY hwithY => ?_
  exact yields_addNumber hrow visual.metricField (isPointOf_addCell hrow visual.seriesField hwithY)

end Chart

namespace Slices

theorem yields_category {value : Value} (h : value.IsReadable) :
    (category value).Yields fun _ => True := by
  unfold category
  split
  · exact yields_ok trivial
  · exact h.yields_toText.imp fun _ _ => trivial

theorem yields_sumIn (column : Column) (together : Bool) {values : List Number}
    (h : (values.map Number.size).sum < Double.intLimit) :
    (sumIn column together values).Yields fun _ => True := by
  cases column with
  | signed =>
    have hlow := Int.le_bmod (x := (Number.integers values).sum) (m := 2 ^ 64) (by decide)
    have hhigh := Int.bmod_lt (x := (Number.integers values).sum) (m := 2 ^ 64) (by decide)
    refine Number.yields_intToDouble_iff.2 (Number.fits_of_size_lt ?_)
    rw [Number.size_int, wrapSigned]
    omega
  | unsigned =>
    have hlow := Int.emod_nonneg (Number.integers values).sum (b := 2 ^ 64) (by decide)
    have hhigh := Int.emod_lt_of_pos (Number.integers values).sum (b := 2 ^ 64) (by decide)
    refine Number.yields_intToDouble_iff.2 (Number.fits_of_size_lt ?_)
    rw [Number.size_int, wrapUnsigned]
    omega
  | exact => exact (Number.yields_sum h).bind fun total htotal => Number.yields_toDouble htotal
  | doubles => exact (Number.yields_doubles h).map fun _ _ => trivial

/-- Points whose values fit all together are collapsed. -/
theorem yields_collapse {points : List Row} (hpoints : ∀ point ∈ points, point.IsReadable)
    (categoryField : String) {valueField : String}
    (hsize : columnSize valueField points < Double.intLimit) :
    (collapse categoryField valueField points).Yields fun _ => True := by
  have hcategories : ∀ point ∈ points, (category (point.cell categoryField)).Yields
      fun _ => True := fun point hpoint => yields_category ((hpoints point hpoint).cell _)
  refine (yields_mapM hcategories).bind fun categories hcount => ?_
  refine (yields_numbers hpoints valueField).bind fun numbers hnumbers => ?_
  obtain ⟨hlength, hsum⟩ := hnumbers
  have hvalues : (categories.zip numbers).map Prod.snd = numbers :=
    List.map_snd_zip (by rw [hlength, hcount.length_eq])
  have hsums : ∀ values ∈ Grouping.groups (categories.zip numbers),
      (sumIn (Column.of numbers) (contiguous categories) values).Yields fun _ => True := by
    intro values hmem
    have hsub := hvalues ▸ Grouping.sublist_of_mem_groups hmem
    refine yields_sumIn _ _ (Nat.lt_of_le_of_lt ?_ hsize)
    exact ((hsub.map _).sum_le_sum fun _ _ => Nat.zero_le _).trans hsum
  exact (yields_mapM hsums).map fun _ _ => trivial

end Slices

section Table

variable {rows : List Row} (h : IsReadableTable rows)

include h

namespace Chart

theorem yields_build (visual : Visual) : (build rows visual).Yields fun _ => True := by
  have hpoints : ∀ row ∈ rows, (Chart.point visual row).Yields (IsPointOf row) := fun row hrow =>
    yields_point (h.rows_isReadable row hrow) visual
  refine (yields_mapM hpoints).bind fun points hforall => ?_
  have hreadable : ∀ point ∈ points, point.IsReadable := by
    intro point hpoint
    obtain ⟨_, _, hpointOf⟩ := exists_of_mem_right hforall hpoint
    exact hpointOf.isReadable
  have hsize : ∀ field, columnSize field points < Double.intLimit := fun field => by
    have hless : columnSize field points ≤ columnSize field rows :=
      List.Forall₂.sum_le_sum (List.forall₂_map_left_iff.2 (List.forall₂_map_right_iff.2
        (hforall.imp fun _ _ hpoint => hpoint.size_le field).flip))
    exact Nat.lt_of_le_of_lt hless (h.columnSize_lt field)
  split
  · exact (Slices.yields_collapse hreadable _ (hsize _)).map fun _ _ => trivial
  · exact yields_ok trivial

/-- **Every chart over a table that can be read is drawn.** -/
theorem yields_buildAll (visuals : List Visual) : (buildAll visuals rows).Yields fun _ => True :=
  (yields_mapM fun visual _ => yields_build h visual).imp fun _ _ => trivial

end Chart

end Table

/-! ## Statistics -/

namespace Number

theorem yields_grouped {places : Nat} (hplaces : places < digitsLimit) {n : Number} (h : n.Fits) :
    (n.grouped places).Yields fun _ => True := by
  have hask : places < placesLimit := hplaces.trans (by decide)
  rw [grouped, if_pos hask]
  refine (yields_toDouble h).bind fun x _ => ?_
  rw [if_pos hplaces]
  exact yields_pure trivial

theorem yields_withPlaces (places : Nat) {n : Number} (h : n.Fits) :
    (n.withPlaces places).Yields fun _ => True :=
  (yields_toDouble h).map fun _ _ => trivial

theorem isZero_abs (n : Number) : n.abs.isZero = n.isZero := by
  cases n with
  | int n => simp [abs, isZero]
  | double x => cases x <;> rfl

end Number

namespace Statistics

variable {numbers : List Number} (h : (numbers.map Number.size).sum < Double.intLimit)

include h

theorem yields_mean : (mean numbers).Yields fun _ => True := by
  rw [mean]
  split
  · exact yields_ok trivial
  · split
    · refine (Number.yields_sum h).bind fun total htotal => ?_
      exact (Number.yields_toDouble htotal).map fun _ _ => trivial
    · exact (Number.yields_doubles h).map fun _ _ => trivial

theorem yields_center (hne : numbers ≠ []) (hlength : numbers.length < 2 ^ 63) :
    (center numbers).Yields fun _ => True := by
  rw [center]
  split
  · have hcount : (Number.int numbers.length).Fits := Number.fits_natCast (by omega)
    have hzero : (Number.int numbers.length).isZero = false := by simpa [Number.isZero] using hne
    exact (Number.yields_sum h).bind fun total htotal => Number.yields_div htotal hcount hzero
  · exact yields_mean h

theorem yields_deviation (hlength : numbers.length < 2 ^ 63) :
    (deviation numbers).Yields fun _ => True := by
  rw [deviation]
  split
  · exact yields_pure trivial
  · next hmany =>
    have hne : numbers ≠ [] := by
      rintro rfl
      exact hmany (by decide)
    refine (yields_center h hne hlength).bind fun middle _ => ?_
    refine (Number.yields_doubles h).bind fun xs _ => ?_
    split <;> exact yields_pure trivial

theorem yields_forecast : (forecast numbers).Yields fun _ => True := by
  rw [forecast]
  split
  · exact yields_pure trivial
  · refine (Number.yields_doubles h).bind fun ys _ => ?_
    extract_lets xs sumX sumY denominator
    split <;> exact yields_pure trivial

end Statistics

/-! ## Insights -/

namespace Insight

theorem yields_label (fallback : String) (column : Option String) {row : Row}
    (hrow : row.IsReadable) : (label fallback column row).Yields fun _ => True := by
  unfold label
  split
  · exact yields_ok trivial
  · next field =>
    split
    · exact yields_ok trivial
    · exact (hrow.cell field).yields_toText.imp fun _ _ => trivial

theorem yields_percentage {delta start : Number} (hdelta : delta.Fits) (hstart : start.Fits) :
    (percentage delta start).Yields fun _ => True := by
  rw [percentage]
  split
  · exact yields_pure trivial
  · next hzero =>
    have hfits : start.abs.Fits := Number.fits_of_size_le (Number.size_abs start).le hstart
    have hnonzero : start.abs.isZero = false :=
      (Number.isZero_abs start).trans (Bool.eq_false_of_not_eq_true hzero)
    exact (Number.yields_div hdelta hfits hnonzero).map fun _ _ => trivial

section Table

variable {rows : List Row} (h : IsReadableTable rows) (columns : List String) (metric : String)

include h

theorem yields_metricNumbers : (metricNumbers metric rows).Yields fun numbers =>
    numbers.length = rows.length ∧ (numbers.map Number.size).sum < Double.intLimit :=
  (yields_numbers h.rows_isReadable metric).imp fun _ hnumbers =>
    ⟨hnumbers.1, Nat.lt_of_le_of_lt hnumbers.2 (h.columnSize_lt metric)⟩

theorem yields_trend? : (trend? rows metric).Yields fun _ => True := by
  refine (yields_metricNumbers h metric).bind fun numbers hnumbers => ?_
  split
  · next first second later =>
    obtain ⟨-, hsum⟩ := hnumbers
    have hmem : later.getLastD second ∈ second :: later := List.getLastD_mem_cons ..
    generalize later.getLastD second = last at hmem
    have hfirst : first.Fits := Number.fits_of_mem hsum List.mem_cons_self
    have hlast : last.Fits := Number.fits_of_mem hsum (List.mem_cons_of_mem first hmem)
    have hlater : last.size ≤ ((second :: later).map Number.size).sum :=
      List.single_le_sum (fun _ _ => Nat.zero_le _) _ (List.mem_map_of_mem hmem)
    refine (Number.yields_sub hlast hfirst).bind fun delta hdelta => ?_
    have hfits : delta.Fits := by
      refine Nat.lt_of_le_of_lt ?_ hsum
      rw [List.map_cons, List.sum_cons]
      omega
    refine (yields_percentage hfits hfirst).bind fun change _ => ?_
    refine (Number.yields_withPlaces 1 (Number.fits_double _)).bind fun size _ => ?_
    refine (Number.yields_withPlaces 2 hfirst).bind fun _ _ => ?_
    exact (Number.yields_withPlaces 2 hlast).map fun _ _ => trivial
  · exact yields_pure trivial

theorem yields_driver? : (driver? columns rows metric).Yields fun _ => True := by
  unfold driver?
  split
  · exact yields_pure trivial
  · split
    · exact yields_pure trivial
    · next dimension _ =>
      have hlabels : ∀ row ∈ rows, (do
          let text ← label "Unspecified" (some dimension) row
          return (text, ← (row.cell metric).toNumber) : Outcome (String × Number)).Yields
            fun entry => entry.2.Fits := by
        intro row hrow
        have hreadable := h.rows_isReadable row hrow
        refine (yields_label _ _ hreadable).bind fun text _ => ?_
        exact (hreadable.cell metric).fits.yields_number.map fun n hn => hn
      refine (yields_mapM hlabels).bind fun labelled hlabelled => ?_
      have hlisted : ∀ entry ∈ (bySize labelled).take driverCount, (do
          return entry.1 ++ " (" ++ (← entry.2.grouped 2) ++ ")" : Outcome String).Yields
            fun _ => True := by
        intro entry hentry
        have hmem : entry ∈ labelled := List.mem_mergeSort.1 (List.mem_of_mem_take hentry)
        obtain ⟨_, _, hfits⟩ := exists_of_mem_right hlabelled hmem
        exact (Number.yields_grouped (by decide) hfits).map fun _ _ => trivial
      exact (yields_mapM hlisted).map fun _ _ => trivial

theorem yields_anomaly? : (anomaly? columns rows metric).Yields fun _ => True := by
  refine (yields_metricNumbers h metric).bind fun numbers hnumbers => ?_
  obtain ⟨hlength, hsum⟩ := hnumbers
  split
  · exact yields_pure trivial
  · refine (Statistics.yields_mean hsum).bind fun center _ => ?_
    refine (Statistics.yields_deviation hsum (hlength ▸ h.length_lt)).bind fun spread _ => ?_
    split
    · exact yields_pure trivial
    · have hmarks : ∀ entry ∈ rows.zip numbers, (do
          return (entry, ← isAnomaly center spread entry.2) :
            Outcome ((Row × Number) × Bool)).Yields fun marked =>
              marked.1.1.IsReadable ∧ marked.1.2.Fits := by
        rintro ⟨row, n⟩ hentry
        obtain ⟨hrow, hn⟩ := List.of_mem_zip hentry
        have hfits := Number.fits_of_mem hsum hn
        have hanomaly : (isAnomaly center spread n).Yields fun _ => True :=
          (Number.yields_toDouble hfits).map fun _ _ => trivial
        exact hanomaly.map fun _ _ => ⟨h.rows_isReadable row hrow, hfits⟩
      refine (yields_mapM hmarks).bind fun marked hmarked => ?_
      extract_lets flagged
      split
      · exact yields_pure trivial
      · have hlisted : ∀ entry ∈ flagged, (do
            let text ← label "item" (dimension? columns metric) entry.1
            return text ++ " (" ++ (← entry.2.withPlaces 2) ++ ")" : Outcome String).Yields
              fun _ => True := by
          intro entry hentry
          obtain ⟨mark, hmark, rfl⟩ := List.mem_map.1 (List.mem_of_mem_take hentry)
          obtain ⟨_, _, hrow, hfits⟩ := exists_of_mem_right hmarked (List.mem_filter.1 hmark).1
          refine (yields_label _ _ hrow).bind fun text _ => ?_
          exact (Number.yields_withPlaces 2 hfits).map fun _ _ => trivial
        exact (yields_mapM hlisted).map fun _ _ => trivial

theorem yields_forecast? : (forecast? rows metric).Yields fun _ => True := by
  refine (yields_metricNumbers h metric).bind fun numbers hnumbers => ?_
  refine (Statistics.yields_forecast hnumbers.2).bind fun next _ => ?_
  split
  · split
    · exact (Number.yields_grouped (by decide) (Number.fits_double _)).map fun _ _ => trivial
    · exact yields_pure trivial
  · exact yields_pure trivial

end Table

end Insight

/-- **Every sentence about a table that can be read is found.** -/
theorem Insights.yields_build {rows : List Row} (h : IsReadableTable rows) (columns : List String)
    (rawRows : List Row) : (build columns rows rawRows).Yields fun _ => True := by
  have hmetric : ∀ metric, (ofMetric columns rows metric).Yields fun _ => True := fun metric =>
    (Insight.yields_trend? h metric).bind fun _ _ =>
      (Insight.yields_driver? h columns metric).bind fun _ _ =>
        (Insight.yields_anomaly? h columns metric).bind fun _ _ =>
          (Insight.yields_forecast? h metric).map fun _ _ => trivial
  unfold build
  split
  · next metric _ => exact (hmetric metric).map fun _ _ => trivial
  · exact yields_ok trivial

/-! ## Runs -/

/-- **Data does not stop a run.** Over plain rows, of which there are fewer than `2 ^ 63`, a run of
any view is completed, if its filters can read their operands and its calculations fit in turn: no
integer too large for a double comes up in them or in the columns that they end in. -/
theorem runView_completes (defaultPageSize : Int) {clock : Outcome Moment} {rows : List Row}
    {view : View} {calculations : List Calculation} {input : RunInput}
    (hclock : ∃ text, (clock >>= Moment.toIso) = .ok text)
    (hplain : ∀ row ∈ rows, row.IsPlain) (hlength : rows.length < 2 ^ 63)
    (hfilters : ∀ f ∈ view.appliedFilters input.filters input.parameters, f.Fits)
    (hcalculations : ∀ filtered,
      Filter.keep (view.appliedFilters input.filters input.parameters) rows = .ok filtered →
        ∀ grouped, groupRows view filtered = .ok grouped → grouped ≠ [] →
          Calculation.FitInTurn calculations grouped) :
    ∃ result, runView defaultPageSize clock rows view calculations input = .ok result := by
  have hrows : ∀ row ∈ rows, row.IsReadable := fun row hrow => (hplain row hrow).isReadable
  have hrun : (runView defaultPageSize clock rows view calculations input).Yields
      fun _ => True := by
    refine (Filter.yields_keep hfilters hrows).with_eq.bind fun filtered hfiltered => ?_
    obtain ⟨hsub, hkept⟩ := hfiltered
    have htable : IsReadableTable filtered :=
      { rows_isReadable := fun row hrow => hrows row (hsub.subset hrow)
        length_lt := hsub.length_le.trans_lt hlength
        columnSize_lt := fun field =>
          (columnSize_mono hsub).trans_lt (columnSize_lt_of_isPlain hlength hplain field) }
    have hfit := hcalculations filtered hkept
    refine (Table.yields_build htable hfit _ _).bind fun built hbuilt => ?_
    refine (Chart.yields_buildAll hbuilt view.visuals).bind fun charts _ => ?_
    refine (Insights.yields_build hbuilt built.1.columns filtered).bind fun insights _ => ?_
    obtain ⟨text, htext⟩ := hclock
    obtain ⟨now, rfl, hnow⟩ := bind_eq_ok.1 htext
    have hstamp : now.toIso.Yields fun _ => True := ⟨text, hnow, trivial⟩
    exact hstamp.map fun _ _ => trivial
  obtain ⟨result, hresult, -⟩ := hrun
  exact ⟨result, hresult⟩

/-- The sales below 100 of each region by month, the largest first, with a pie of the regions. -/
def drawnSales : View :=
  { monthlySales with
    filters := [⟨"amount", "lt", .int 100⟩]
    sort := [⟨"total", .descending⟩]
    visuals := [⟨"shares", "Shares", .pie, some "region", some "total", none, none, none, none⟩] }

/-- The mean of the sales of a group, its distance from the least of them, the distances so far, and
a mark of the large totals. -/
def salesCalculations : List Calculation := [
  ⟨"mean", "Mean", "mean", .arithmetic "total / number"⟩,
  ⟨"spread", "Spread", "spread", .variance false "mean" "least"⟩,
  ⟨"spreads", "Spreads", "spreads", .rolling "spread" .null⟩,
  ⟨"mark", "Mark", "mark", .choice ⟨"total", "gt", .int 4⟩ (.text "large") .null⟩]

theorem runView_completes_sales :
    ∃ result, runView 50 (.ok ⟨0⟩) sales drawnSales salesCalculations .plain = .ok result :=
  runView_completes 50 ⟨_, rfl⟩ (by decide +kernel) (by decide +kernel) (by decide +kernel)
    (by decide +kernel)

/-- The amounts below an integer that is too large for a double. -/
def amountsBelowLarge : View :=
  { monthlySales with
    rowFields := ["amount"]
    columnFields := []
    measures := []
    filters := [⟨"amount", "lt", .int (10 ^ 400)⟩] }

/-- A filter whose operand is too large for a double stops a run. -/
theorem exists_run_stopped :
    ¬ ∀ (defaultPageSize : Int) (clock : Outcome Moment) (rows : List Row) (view : View)
        (calculations : List Calculation) (input : RunInput),
      (∃ text, (clock >>= Moment.toIso) = .ok text) → (∀ row ∈ rows, row.IsPlain) →
      (∀ c ∈ calculations, ∀ field window, c.rule = .rolling field window →
        ∀ size, Calculation.windowSize window = .ok size → size ≤ Calculation.largestWindow) →
      ∃ result, runView defaultPageSize clock rows view calculations input = .ok result := by
  intro h
  have hstopped : Filter.keep (amountsBelowLarge.appliedFilters none .empty)
      [.ofList [("amount", .int (-1))]] = .error .overflow := by decide +kernel
  obtain ⟨result, hresult⟩ := h 50 (.ok ⟨0⟩) [.ofList [("amount", .int (-1))]] amountsBelowLarge []
    .plain ⟨_, rfl⟩ (by decide +kernel) nofun
  obtain ⟨filtered, hfiltered, -⟩ := bind_eq_ok.1 hresult
  exact nomatch hstopped.symm.trans hfiltered

end Reporting
