import Reporting.Proofs.Calculations
import Reporting.Proofs.Groups
import Reporting.Proofs.Run

/-!
# Conservation of amounts

The total of a measure that sums integers or counts is that of all rows which the run kept
(`runView_total_of_weighs`): each kept row weighs in one group, the cell of the group holds the
weight of its members, calculations of other fields keep that cell, sorting permutes the rows, and
the total adds the cells up again.
-/

namespace Reporting

/-! ## Weights of groups -/

/-- A measure that has the weight of the members of a group as its value, for groups of `rows`. -/
def Measure.Weighs (measure : Measure) (rows : List Row) (weight : Row → Int) : Prop :=
  ∀ members ⊆ rows, ∀ value, Grouping.measureValue members measure = .ok value →
    value = .int (members.map weight).sum

theorem Measure.weighs_of_count {measure : Measure} (rows : List Row)
    (hcount : Aggregation.ofName measure.aggregation = .count) :
    measure.Weighs rows fun _ => 1 := by
  intro members _ value hvalue
  rw [Grouping.eq_of_measureValue_count hcount hvalue]
  simp

theorem Measure.weighs_of_sum {measure : Measure} {rows : List Row} {amount : Row → Int}
    (hsum : Aggregation.ofName measure.aggregation = .sum)
    (hamount : ∀ row ∈ rows, (row.cell measure.field).toNumber = .ok (.int (amount row))) :
    measure.Weighs rows amount := by
  intro members hmembers value hvalue
  have hrolls : (Aggregation.ofName measure.aggregation).RollsUp := by
    rw [hsum]
    trivial
  rw [Grouping.measureValue_ints hrolls fun row hrow => hamount row (hmembers hrow), hsum] at hvalue
  exact (Except.ok.inj hvalue).symm

/-- The cells of a measure that weighs, one for each group. -/
theorem map_cell_groupRows {view : View} {rows grouped : List Row} {measure : Measure}
    {weight : Row → Int} (hunique : view.measures.filter (·.label = measure.label) = [measure])
    (hweighs : measure.Weighs rows weight) (h : groupRows view rows = .ok grouped) :
    grouped.map (·.cell measure.label) =
      (firsts (rows.map (Grouping.plainKey view.dimensions))).map fun k =>
        .int ((fiber (Grouping.plainKey view.dimensions) rows k).map weight).sum := by
  rw [groupRows_eq (isKeyable_of_groupRows h)] at h
  obtain ⟨rowOf, rfl, hrowOf⟩ := Outcome.exists_map_of_mapM h
  rw [List.map_map]
  refine List.map_congr_left fun k hk => ?_
  obtain ⟨value, hvalue, hcell⟩ :=
    Grouping.cell_addMeasures hunique (Grouping.groupRow_eq_ok.1 (hrowOf k hk)).2
  have hsub : fiber (Grouping.plainKey view.dimensions) rows k ⊆ rows :=
    fun row hrow => (mem_fiber.1 hrow).1
  rw [hweighs _ hsub value hvalue] at hcell
  exact hcell

/-! ## The rows of a table -/

theorem SortRule.perm_sortRows {rules : List SortRule} {rows out : List Row}
    (h : sortRows rules rows = .ok out) : out.Perm rows := by
  rw [sortRows] at h
  split at h
  · cases h
  · rw [← Except.ok.inj h]
    have hsorted := (List.mergeSort_perm (rows.map fun row => (key rules row, row)) fun a b =>
      notAfter (compareKeys (rules.map (·.direction)) a.1 b.1)).map Prod.snd
    rw [List.map_map] at hsorted
    exact hsorted.trans (.of_eq (List.map_id rows))

/-- The steps that make the rows of a table. -/
theorem Table.allRows_inv {view : View} {calculations : List Calculation} {rows ordered : List Row}
    (h : allRows view calculations rows = .ok ordered) :
    ∃ grouped calculated, groupRows view rows = .ok grouped ∧
      Calculation.applyAll calculations grouped = .ok calculated ∧
      SortRule.sortRows view.sort calculated = .ok ordered := by
  obtain ⟨grouped, hgrouped, h⟩ := Outcome.bind_eq_ok.1 h
  obtain ⟨calculated, hcalculated, h⟩ := Outcome.bind_eq_ok.1 h
  exact ⟨grouped, calculated, hgrouped, hcalculated, h⟩

/-! ## Totals -/

/-- The total of a column of integers. -/
theorem eq_of_columnTotal {rows : List Row} {column : String} {total : Number}
    (hints : ∀ row ∈ rows, ∃ n, row.cell column = .int n)
    (h : columnTotal rows column = .ok total) :
    total = .int (rows.map fun row => (row.cell column).written).sum := by
  obtain ⟨numbers, hnumbers, h⟩ := Outcome.bind_eq_ok.1 h
  obtain ⟨sum, hsum, h⟩ := Outcome.bind_eq_ok.1 h
  have hvalues : numbers = rows.map fun row => Number.int (row.cell column).written := by
    refine Outcome.eq_map_of_mapM (fun row hrow x hx => ?_) hnumbers
    obtain ⟨n, hn⟩ := hints row hrow
    rw [hn] at hx
    rw [hn, Value.eq_of_toNumber_int hx, Value.written_int]
  rw [hvalues, ← Function.comp_def Number.int, ← List.map_map, Number.sum_int] at hsum
  rw [← Outcome.pure_eq_ok.1 h, ← Except.ok.inj hsum]
  rfl

/-- Totals hold the total of a column from its first turn on, and a later turn of its name repeats
that total. -/
theorem get?_foldlM_columnTotal {rows : List Row} {columns : List String} {column : String}
    {start totals : Keyed Number}
    (h : columns.foldlM (fun (before : Keyed Number) c => do
      return before.put c (← columnTotal rows c)) start = .ok totals)
    (hcolumn : column ∈ columns ∨
      ∃ total, columnTotal rows column = .ok total ∧ start.get? column = some total) :
    ∃ total, columnTotal rows column = .ok total ∧ totals.get? column = some total := by
  induction columns generalizing start with
  | nil =>
    rw [← Outcome.pure_eq_ok.1 h]
    exact hcolumn.resolve_left (by simp)
  | cons first rest ih =>
    obtain ⟨next, hnext, h⟩ := Outcome.bind_eq_ok.1 h
    obtain ⟨total, htotal, hnext⟩ := Outcome.bind_eq_ok.1 hnext
    obtain rfl := Outcome.pure_eq_ok.1 hnext
    refine ih h ?_
    by_cases hfirst : first = column
    · subst hfirst
      exact .inr ⟨total, htotal, by simp⟩
    · simpa [hfirst, Ne.symm hfirst] using hcolumn

/-- The totals hold the total of each of their columns. -/
theorem get?_columnTotals {rows : List Row} {columns : List String} {totals : Keyed Number}
    (h : columnTotals rows columns = .ok totals) {column : String} (hcolumn : column ∈ columns) :
    ∃ total, columnTotal rows column = .ok total ∧ totals.get? column = some total :=
  get?_foldlM_columnTotal h (.inl hcolumn)

theorem Table.label_mem_metricColumns {view : View} (calculations : List Calculation)
    {measure : Measure} (hmem : measure ∈ view.measures) (hnamed : measure.label ≠ "") :
    measure.label ∈ metricColumns view calculations := by
  rw [metricColumns, mem_firsts, List.mem_filter, List.mem_append]
  exact ⟨.inl (List.mem_map_of_mem hmem), by simpa using hnamed⟩

/-! ## Conservation -/

section Run

variable {defaultPageSize : Int} {clock : Outcome Moment} {rows : List Row} {view : View}
  {calculations : List Calculation} {input : RunInput} {result : RunResult} {measure : Measure}

/-- The total of a measure is the weight of the rows that a run kept. -/
theorem runView_total_of_weighs
    (run : runView defaultPageSize clock rows view calculations input = .ok result)
    (hnamed : measure.label ≠ "")
    (hunique : view.measures.filter (·.label = measure.label) = [measure])
    (hkept : ∀ c ∈ calculations, c.isSupported = true → c.output ≠ measure.label)
    {weight : Row → Int} (hweighs : measure.Weighs result.rawRows weight) :
    result.table.totals.get? measure.label = some (.int (result.rawRows.map weight).sum) := by
  obtain ⟨whole, ordered, hsteps, rfl⟩ := runView_inv defaultPageSize run
  obtain ⟨grouped, calculated, hgrouped, hcalculated, hordered⟩ := Table.allRows_inv hsteps.sorted
  let written (row : Row) : Int := (row.cell measure.label).written
  have hcells := (Calculation.map_cell_applyAll hkept hcalculated).trans
    (map_cell_groupRows hunique hweighs hgrouped)
  have hperm := SortRule.perm_sortRows hordered
  have hints : ∀ row ∈ ordered, ∃ n, row.cell measure.label = .int n := by
    intro row hrow
    have hcell := List.mem_map_of_mem (f := (·.cell measure.label)) (hperm.subset hrow)
    rw [hcells] at hcell
    obtain ⟨k, -, hk⟩ := List.mem_map.1 hcell
    exact ⟨_, hk.symm⟩
  have hmem : measure ∈ view.measures :=
    List.mem_of_mem_filter (hunique ▸ List.mem_singleton_self _)
  obtain ⟨total, htotal, hget⟩ :=
    get?_columnTotals hsteps.totals (Table.label_mem_metricColumns calculations hmem hnamed)
  have hsum : (ordered.map written).sum = (whole.rawRows.map weight).sum :=
    calc (ordered.map written).sum
        = (calculated.map written).sum := (hperm.map written).sum_eq
      _ = ((calculated.map (·.cell measure.label)).map Value.written).sum := by
          rw [List.map_map]
          rfl
      _ = (whole.rawRows.map weight).sum := by
          rw [hcells, List.map_map]
          exact sum_map_fiber _ whole.rawRows weight
  rw [eq_of_columnTotal hints htotal] at hget
  exact hget.trans (congrArg (some ∘ Number.int) hsum)

/-- **The totals of counts and of sums of integers are those of the rows that a run kept**, whatever
the grouping, the other calculations, the sort rules and the page. -/
theorem runView_total_conserved
    (run : runView defaultPageSize clock rows view calculations input = .ok result)
    (hnamed : measure.label ≠ "")
    (hunique : view.measures.filter (·.label = measure.label) = [measure])
    (hkept : ∀ c ∈ calculations, c.isSupported = true → c.output ≠ measure.label) :
    (Aggregation.ofName measure.aggregation = .count →
      result.table.totals.get? measure.label = some (.int result.rawRows.length)) ∧
    (Aggregation.ofName measure.aggregation = .sum → ∀ amount : Row → Int,
      (∀ row ∈ result.rawRows, (row.cell measure.field).toNumber = .ok (.int (amount row))) →
      result.table.totals.get? measure.label = some (.int (result.rawRows.map amount).sum)) := by
  constructor
  · intro hcount
    have htotal :=
      runView_total_of_weighs run hnamed hunique hkept (Measure.weighs_of_count _ hcount)
    simpa using htotal
  · intro hsum amount hamount
    exact runView_total_of_weighs run hnamed hunique hkept (Measure.weighs_of_sum hsum hamount)

end Run

/-- The sales of the north with their rank, on a second page. -/
def northernSales : Outcome RunResult :=
  runView 25 (.ok ⟨0⟩) sales
    { monthlySales with
      columnFields := []
      filters := [⟨"region", "eq", .text "North"⟩]
      sort := [⟨"rank", .ascending⟩] }
    [⟨"rank", "Rank", "rank", .rank "total"⟩]
    { RunInput.plain with page := some 2 }

theorem northernSales_total_conserved :
    (northernSales.map fun result => (result.table.totals.get? "total",
      result.table.totals.get? "number")) = .ok (some (.int 6), some (.int 3)) := by
  have hraw : northernSales.map RunResult.rawRows =
      .ok [sale "north" "May" 3, sale "north" "June" (-4), sale "north" "May" 7] := by
    decide +kernel
  cases hrun : northernSales with
  | error failure =>
    rw [hrun] at hraw
    cases hraw
  | ok result =>
    rw [hrun] at hraw
    have hrows : result.rawRows = _ := Except.ok.inj hraw
    have hamount : ∀ row ∈ result.rawRows,
        (row.cell "amount").toNumber = .ok (.int (row.cell "amount").written) := by
      rw [hrows]
      decide +kernel
    let total : Measure := ⟨"amount", "total", "sum", none⟩
    let number : Measure := ⟨"amount", "number", "count", none⟩
    have htotal := (runView_total_conserved hrun (by decide : total.label ≠ "")
      (by decide +kernel) (by decide)).2 rfl _ hamount
    have hnumber := (runView_total_conserved hrun (by decide : number.label ≠ "")
      (by decide +kernel) (by decide)).1 rfl
    rw [hrows] at htotal hnumber
    exact congrArg Except.ok (Prod.ext htotal hnumber)

end Reporting
