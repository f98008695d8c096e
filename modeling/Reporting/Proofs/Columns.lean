import Mathlib.Data.List.Permutation
import Reporting.Proofs.Conservation
import Reporting.Proofs.Pipeline
import Reporting.Proofs.Sorting

/-!
# Columns of tables

All rows of a table have the same fields in the same order: the dimensions, then the labels of the
measures, then what the calculations write, each where it comes first (`Table.keys_of_allRows`).
So the columns of a table do not depend on the row that happens to come first, and sort rules do no
more than reorder it (`Table.build_resorted`).
-/

namespace Reporting

/-! ## Fields of rows -/

namespace Keyed

variable {α : Type}

theorem keys_put_eq_firsts (t : Keyed α) (key : String) (value : α) :
    (t.put key value).keys = firsts (t.keys ++ [key]) := by
  have hnodup : t.keys.Nodup := t.nodup
  rw [keys_put]
  split
  · next hmem => rw [firsts_append_cons_of_mem hmem, List.append_nil, firsts_of_nodup hnodup]
  · next hnew =>
    refine (firsts_of_nodup (List.nodup_append.2 ⟨hnodup, by simp, fun a ha b hb => ?_⟩)).symm
    rintro rfl
    exact hnew (List.mem_singleton.1 hb ▸ ha)

theorem keys_foldl_put (value : String → α) (start : Keyed α) (fields : List String) :
    (fields.foldl (fun t field => t.put field (value field)) start).keys =
      firsts (start.keys ++ fields) := by
  induction fields generalizing start with
  | nil =>
    have hnodup : start.keys.Nodup := start.nodup
    rw [List.append_nil, firsts_of_nodup hnodup]
    rfl
  | cons field rest ih =>
    rw [List.foldl_cons, ih, keys_put_eq_firsts, firsts_firsts_append, List.append_assoc]
    rfl

end Keyed

namespace Grouping

variable {members out : List Row}

theorem keys_addMeasures {measures : List Measure} {start out : Row}
    (h : addMeasures members measures start = .ok out) :
    out.keys = firsts (start.keys ++ measures.map (·.label)) := by
  induction measures generalizing start with
  | nil =>
    have hnodup : start.keys.Nodup := start.nodup
    rw [← Outcome.pure_eq_ok.1 h, List.map_nil, List.append_nil, firsts_of_nodup hnodup]
  | cons measure rest ih =>
    obtain ⟨value, -, h⟩ := addMeasures_cons_eq_ok.1 h
    rw [ih h, Keyed.keys_put_eq_firsts, firsts_firsts_append, List.append_assoc]
    rfl

/-- A group row has the dimensions and then the labels. -/
theorem keys_groupRow {view : View} {out : Row} (h : groupRow view members = .ok out) :
    out.keys = firsts (view.dimensions ++ view.measures.map (·.label)) := by
  rw [keys_addMeasures (groupRow_eq_ok.1 h).2, plainCells,
    Keyed.keys_foldl_put fun field => ((members.headD .empty).cell field).normalized,
    firsts_firsts_append]
  rfl

end Grouping

namespace Calculation

variable {rows out : List Row} {fields : List String}

theorem keys_assign {output : String} {values : List Value}
    (hfields : ∀ row ∈ rows, row.keys = fields) :
    ∀ row ∈ assign output rows values, row.keys = firsts (fields ++ [output]) := by
  intro row hrow
  obtain ⟨i, hi, rfl⟩ := List.getElem_of_mem hrow
  have hi' : i < rows.length := by
    simp only [assign, List.length_zipWith] at hi
    omega
  simp only [assign, List.getElem_zipWith]
  rw [Keyed.keys_put_eq_firsts, hfields _ (List.getElem_mem hi')]

/-- A calculation adds its output to the fields of every row. -/
theorem keys_apply {c : Calculation} (hfields : ∀ row ∈ rows, row.keys = fields)
    (h : c.apply rows = .ok out) : ∀ row ∈ out, row.keys = firsts (fields ++ outputs [c]) := by
  obtain ⟨hunsupported, rfl⟩ | ⟨hsupported, values, -, -, rfl⟩ := apply_cases h
  · intro row hrow
    have houtputs : outputs [c] = [] := by simp [outputs, hunsupported]
    have hnodup : fields.Nodup := hfields row hrow ▸ row.nodup
    rw [houtputs, List.append_nil, firsts_of_nodup hnodup, hfields row hrow]
  · have houtputs : outputs [c] = [c.output] := by simp [outputs, hsupported]
    rw [houtputs]
    exact keys_assign hfields

theorem keys_applyAll {calculations : List Calculation}
    (hfields : ∀ row ∈ rows, row.keys = fields) (h : applyAll calculations rows = .ok out) :
    ∀ row ∈ out, row.keys = firsts (fields ++ outputs calculations) := by
  by_cases hrows : rows = []
  · subst hrows
    obtain rfl := Except.ok.inj h
    nofun
  · rw [applyAll_of_ne_nil hrows] at h
    clear hrows
    induction calculations generalizing rows fields with
    | nil =>
      obtain rfl := Outcome.pure_eq_ok.1 h
      intro row hrow
      have hnodup : fields.Nodup := hfields row hrow ▸ row.nodup
      rw [outputs, List.filter_nil, List.map_nil, List.append_nil, firsts_of_nodup hnodup,
        hfields row hrow]
    | cons c rest ih =>
      rw [List.foldlM_cons] at h
      obtain ⟨next, hnext, h⟩ := Outcome.bind_eq_ok.1 h
      intro row hrow
      rw [ih (keys_apply hfields hnext) h row hrow, firsts_firsts_append, List.append_assoc,
        ← outputs_cons]

end Calculation

/-! ## Fields of tables -/

namespace Table

variable {view : View} {calculations : List Calculation} {rows ordered : List Row}

/-- The fields of the rows of a table: the dimensions, the labels, and what the calculations write,
each once. -/
def fields (view : View) (calculations : List Calculation) : List String :=
  firsts (view.dimensions ++ view.measures.map (·.label) ++ Calculation.outputs calculations)

/-- **All rows of a table have the same fields.** -/
theorem keys_of_allRows (h : allRows view calculations rows = .ok ordered) :
    ∀ row ∈ ordered, row.keys = fields view calculations := by
  obtain ⟨grouped, calculated, hgrouped, hcalculated, hordered⟩ := allRows_inv h
  have hgroups : ∀ row ∈ grouped,
      row.keys = firsts (view.dimensions ++ view.measures.map (·.label)) := by
    obtain ⟨keys, -, hgroups⟩ := Outcome.bind_eq_ok.1 hgrouped
    intro row hrow
    obtain ⟨members, -, hmembers⟩ := Outcome.exists_source_of_mapM hgroups hrow
    exact Grouping.keys_groupRow hmembers
  intro row hrow
  have hmem : row ∈ calculated := (SortRule.perm_sortRows hordered).subset hrow
  rw [Calculation.keys_applyAll hgroups hcalculated row hmem, firsts_firsts_append, fields]

/-- The columns of a table that has rows are their fields. -/
theorem columnsOf_eq (h : allRows view calculations rows = .ok ordered) (metrics : List String) :
    columnsOf view metrics ordered =
      if ordered.isEmpty then firsts (view.dimensions ++ metrics)
      else fields view calculations := by
  cases ordered with
  | nil => rfl
  | cons first rest => exact keys_of_allRows h first List.mem_cons_self

end Table

/-! ## Sort rules -/

namespace SortRule

theorem firstFailure?_nil (keys : List Key) : firstFailure? [] keys = none :=
  firstFailure?_eq_none_iff.2 (List.pairwise_of_forall fun _ _ => ⟨_, rfl⟩)

/-- Without rules rows stay in their order. -/
theorem sortRows_nil (rows : List Row) : sortRows [] rows = .ok rows := by
  have hplaces : ((rows.map fun row => (key [] row, row)).mergeSort fun a b =>
      notAfter (compareKeys [] a.1 b.1)) = rows.map fun row => (key [] row, row) :=
    List.mergeSort_of_pairwise (List.pairwise_of_forall fun _ _ => rfl)
  rw [sortRows, List.map_nil, firstFailure?_nil]
  dsimp only
  rw [hplaces, List.map_map]
  exact congrArg Except.ok (List.map_id rows)

end SortRule

theorem Table.allRows_of_unsorted {view : View} {calculations : List Calculation}
    {rows made : List Row} (hsort : view.sort = [])
    (h : (groupRows view rows >>= Calculation.applyAll calculations) = .ok made) :
    allRows view calculations rows = .ok made := by
  obtain ⟨grouped, hgrouped, hmade⟩ := Outcome.bind_eq_ok.1 h
  rw [allRows, hgrouped, Outcome.ok_bind, hmade, Outcome.ok_bind, hsort, SortRule.sortRows_nil]

/-- The total of a column whose cells count as integers. -/
theorem columnTotal_ints {rows : List Row} {column : String} {amount : Row → Int}
    (h : ∀ row ∈ rows, (row.cell column).toNumber = .ok (.int (amount row))) :
    columnTotal rows column = .ok (.int (rows.map amount).sum) := by
  have hnumbers : rows.mapM (fun row => (row.cell column).toNumber) =
      .ok ((rows.map amount).map .int) := by
    rw [List.map_map]
    exact Outcome.mapM_eq_ok_map h
  rw [columnTotal, hnumbers, Outcome.ok_bind, Number.sum_int]
  rfl

/-- Integers add up to the same total in any order. -/
theorem columnTotal_perm {rows others : List Row} {column : String} (hperm : rows.Perm others)
    (hints : ∀ row ∈ rows, ∃ n, (row.cell column).toNumber = .ok (.int n)) :
    columnTotal rows column = columnTotal others column := by
  choose! amount hamount using hints
  have hothers : ∀ row ∈ others, (row.cell column).toNumber = .ok (.int (amount row)) :=
    fun row hrow => hamount row (hperm.symm.subset hrow)
  rw [columnTotal_ints hamount, columnTotal_ints hothers, (hperm.map amount).sum_eq]

namespace Table

/-- What the parts of a table are. -/
theorem build_inv {view : View} {calculations : List Calculation} {page pageSize : Int}
    {rows ordered : List Row} {table : Table}
    (h : build view calculations page pageSize rows = .ok (table, ordered)) :
    allRows view calculations rows = .ok ordered ∧
      columnTotals ordered (metricColumns view calculations) = .ok table.totals ∧
      table.columns = columnsOf view (metricColumns view calculations) ordered ∧
      table.totalRows = ordered.length := by
  obtain ⟨all, hall, h⟩ := Outcome.bind_eq_ok.1 h
  obtain ⟨totals, htotals, h⟩ := Outcome.bind_eq_ok.1 h
  obtain ⟨rfl, rfl⟩ := Prod.mk.inj (Outcome.pure_eq_ok.1 h)
  exact ⟨hall, htotals, rfl, rfl⟩

theorem build_eq_ok {view : View} {calculations : List Calculation} {rows ordered : List Row}
    {totals : Keyed Number} (page pageSize : Int)
    (hordered : allRows view calculations rows = .ok ordered)
    (htotals : columnTotals ordered (metricColumns view calculations) = .ok totals) :
    ∃ table, build view calculations page pageSize rows = .ok (table, ordered) := by
  rw [build, hordered, Outcome.ok_bind]
  dsimp only
  rw [htotals]
  exact ⟨_, rfl⟩

/-- **Sort rules only reorder.** Under other sort rules a table has the same rows, though in another
order, the same columns and the same number of rows, and the same total of every metric column whose
cells all count as integers. Sums of doubles depend on the order in which they are added. -/
theorem build_resorted {view : View} {rules : List SortRule} {calculations : List Calculation}
    {page pageSize : Int} {rows ordered reordered : List Row} {table other : Table}
    (h : build view calculations page pageSize rows = .ok (table, ordered))
    (h' : build { view with sort := rules } calculations page pageSize rows =
      .ok (other, reordered)) :
    ordered.Perm reordered ∧ table.columns = other.columns ∧ table.totalRows = other.totalRows ∧
    ∀ column ∈ metricColumns view calculations,
      (∀ row ∈ ordered, ∃ n, (row.cell column).toNumber = .ok (.int n)) →
      ∃ total, table.totals.get? column = some total ∧ other.totals.get? column = some total := by
  obtain ⟨hordered, htotals, hcolumns, hsize⟩ := build_inv h
  obtain ⟨hreordered, htotals', hcolumns', hsize'⟩ := build_inv h'
  -- Before they are sorted the rows are the same.
  obtain ⟨grouped, calculated, hgrouped, hcalculated, hsorted⟩ := allRows_inv hordered
  obtain ⟨grouped', calculated', hgrouped', hcalculated', hsorted'⟩ := allRows_inv hreordered
  obtain rfl := Except.ok.inj (hgrouped.symm.trans hgrouped')
  obtain rfl := Except.ok.inj (hcalculated.symm.trans hcalculated')
  have hperm : ordered.Perm reordered :=
    (SortRule.perm_sortRows hsorted).trans (SortRule.perm_sortRows hsorted').symm
  refine ⟨hperm, ?_, by rw [hsize, hsize', hperm.length_eq], fun column hcolumn hints => ?_⟩
  · have hempty : ordered.isEmpty = reordered.isEmpty := by
      rw [Bool.eq_iff_iff, List.isEmpty_iff_length_eq_zero, List.isEmpty_iff_length_eq_zero,
        hperm.length_eq]
    rw [hcolumns, hcolumns', columnsOf_eq hordered, columnsOf_eq hreordered, hempty]
    rfl
  · obtain ⟨total, htotal, hget⟩ := get?_columnTotals htotals hcolumn
    obtain ⟨total', htotal', hget'⟩ := get?_columnTotals htotals' hcolumn
    rw [columnTotal_perm hperm hints] at htotal
    obtain rfl := Except.ok.inj (htotal.symm.trans htotal')
    exact ⟨total, hget, hget'⟩

/-- The change of the total from one group to the next. -/
def totalChange : Calculation := ⟨"change", "Change", "change", .change .month "total"⟩

/-- The monthly sales with the change of their total. -/
def monthlyChanges : List Row :=
  (monthlyRows.zip [0, -5, -9]).map fun row => row.1.put "change" (.int row.2)

theorem build_resorted_monthly :
    ∃ table other,
      build monthlySales [totalChange] 1 2 sales = .ok (table, monthlyChanges) ∧
      build { monthlySales with sort := [⟨"total", .ascending⟩] } [totalChange] 1 2 sales =
        .ok (other, monthlyChanges.reverse) ∧
      monthlyChanges.Perm monthlyChanges.reverse ∧ table.columns = other.columns ∧
      ∃ total, table.totals.get? "change" = some total ∧
        other.totals.get? "change" = some total := by
  have hcalculated : (groupRows monthlySales sales >>= Calculation.applyAll [totalChange]) =
      .ok monthlyChanges := by decide +kernel
  obtain ⟨grouped, hgrouped, hcalculated⟩ := Outcome.bind_eq_ok.1 hcalculated
  have hrows : ∀ rules ordered, SortRule.sortRows rules monthlyChanges = .ok ordered →
      allRows { monthlySales with sort := rules } [totalChange] sales = .ok ordered := by
    intro rules ordered hordered
    have hgroups : groupRows { monthlySales with sort := rules } sales = .ok grouped := hgrouped
    rw [allRows, hgroups, Outcome.ok_bind, hcalculated, Outcome.ok_bind]
    exact hordered
  have hplain : SortRule.sortRows [] monthlyChanges = .ok monthlyChanges := by cbv
  have hsorted : SortRule.sortRows [⟨"total", .ascending⟩] monthlyChanges =
      .ok monthlyChanges.reverse := by cbv
  have htotals : ∀ rows ∈ [monthlyChanges, monthlyChanges.reverse],
      columnTotals rows (metricColumns monthlySales [totalChange]) =
        .ok (.ofList [("total", .int 11), ("number", .int 4), ("least", .int 4),
          ("change", .int (-14))]) := by decide +kernel
  obtain ⟨table, h⟩ := build_eq_ok 1 2 (hrows _ _ hplain) (htotals _ (by simp))
  obtain ⟨other, h'⟩ := build_eq_ok 1 2 (hrows _ _ hsorted) (htotals _ (by simp))
  have hread : ∀ row ∈ monthlyChanges,
      (row.cell "change").toNumber = .ok (.int (row.cell "change").written) := by decide +kernel
  obtain ⟨hperm, hcolumns, -, hmetrics⟩ := build_resorted h h'
  exact ⟨table, other, h, h', hperm, hcolumns,
    hmetrics "change" (by decide +kernel) fun row hrow => ⟨_, hread row hrow⟩⟩

end Table

end Reporting
