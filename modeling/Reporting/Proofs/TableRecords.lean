import Reporting.Export
import Reporting.Proofs.CsvReading
import Reporting.Proofs.Headers
import Reporting.Proofs.Readable

/-!
# Records of tables

A table is rectangular: its rows have the columns of its header, in that order, so the records that
are read back from its export hold all cells of its page (`Table.build_rectangular`). A cell in a
column with a name always has a text: it was totalled as a number or grouped by as a dimension
(`Table.isWritable_of_build`). Only under an unnamed label or output can there be an integer with
too many digits, and then there is no export (`Table.exists_table_unexported`).
-/

namespace Reporting

/-- The cells under the keys of a row are its values. -/
theorem Keyed.map_cell_keys (row : Row) : row.keys.map row.cell = row.values := by
  rw [keys, values, List.map_map]
  refine List.map_congr_left fun entry hentry => ?_
  have hfound : row.get? entry.1 = some entry.2 := get?_eq_some_iff.2 hentry
  rw [Function.comp_apply, cell, hfound, Option.getD_some]

theorem Keyed.cell_of_not_mem {row : Row} {field : String} (h : field ∉ row.keys) :
    row.cell field = .null := by
  rw [cell, get?, find?_eq_none h]
  rfl

namespace Value

/-- Whether a value is no list and no object. -/
def IsScalar : Value → Prop
  | .list _ | .object _ => False
  | _ => True

theorem isScalar_normalized (value : Value) : value.normalized.IsScalar := by
  cases value <;> trivial

theorem IsScalar.isWritable_of_toNumber {value : Value} (hscalar : value.IsScalar) {n : Number}
    (h : value.toNumber = .ok n) : value.IsWritable := by
  cases value with
  | number m =>
    cases m with
    | int k =>
      obtain ⟨x, hx, -⟩ := Outcome.bind_eq_ok.1 h
      have hreadable : (Value.int k).IsReadable := Number.yields_intToDouble_iff.1 ⟨x, hx, trivial⟩
      exact hreadable.isWritable
    | double x => trivial
  | null | bool | text => trivial
  | list items => cases hscalar
  | object fields => cases hscalar

end Value

/-- Whether no cell of a row is a list or an object. -/
def Keyed.IsScalar (row : Row) : Prop := ∀ field, (row.cell field).IsScalar

theorem Keyed.IsScalar.put {row : Row} (h : row.IsScalar) {field : String} {value : Value}
    (hvalue : value.IsScalar) : (row.put field value).IsScalar := by
  intro other
  rw [cell_put]
  split
  · exact hvalue
  · exact h other

namespace Grouping

variable {members : List Row} {measures : List Measure} {start out : Row}

theorem isScalar_addMeasures (hstart : start.IsScalar)
    (h : addMeasures members measures start = .ok out) : out.IsScalar := by
  induction measures generalizing start with
  | nil => exact Outcome.pure_eq_ok.1 h ▸ hstart
  | cons measure rest ih =>
    obtain ⟨value, -, h⟩ := addMeasures_cons_eq_ok.1 h
    have hnumber : (Value.number value).IsScalar := trivial
    exact ih (hstart.put hnumber) h

/-- The row of a group has no lists and no objects. -/
theorem isScalar_groupRow {view : View} (h : groupRow view members = .ok out) : out.IsScalar := by
  refine isScalar_addMeasures (fun field => ?_) (groupRow_eq_ok.1 h).2
  rw [plainCells, cell_foldl_put fun f => ((members.headD .empty).cell f).normalized]
  split
  · exact Value.isScalar_normalized _
  · trivial

end Grouping

namespace Calculation

/-- No rule makes lists or objects. -/
theorem isScalar_values {rule : Rule} {rows : List Row} {values : List Value}
    (h : values? rule rows = .ok (some values)) : ∀ value ∈ values, value.IsScalar := by
  have hcells : ∀ {xs : List Double}, ∀ value ∈ xs.map doubleCell, value.IsScalar := by
    intro xs value hvalue
    obtain ⟨x, -, rfl⟩ := List.mem_map.1 hvalue
    trivial
  intro value hvalue
  cases rule with
  | arithmetic expression =>
    obtain ⟨made, hmade, rfl⟩ := Outcome.bind_some_eq_ok.1 h
    obtain ⟨row, -, hrow⟩ := Outcome.exists_source_of_mapM hmade hvalue
    obtain ⟨numbers, -, hrow⟩ := Outcome.bind_eq_ok.1 hrow
    obtain ⟨n, -, hrow⟩ := Outcome.bind_eq_ok.1 hrow
    rw [← Outcome.pure_eq_ok.1 hrow]
    trivial
  | variance percentage minuend subtrahend =>
    obtain ⟨made, hmade, rfl⟩ := Outcome.bind_some_eq_ok.1 h
    obtain ⟨row, -, hrow⟩ := Outcome.exists_source_of_mapM hmade hvalue
    obtain ⟨base, -, hrow⟩ := Outcome.bind_eq_ok.1 hrow
    obtain ⟨n, -, hrow⟩ := Outcome.bind_eq_ok.1 hrow
    obtain ⟨delta, -, hrow⟩ := Outcome.bind_eq_ok.1 hrow
    rw [← Outcome.pure_eq_ok.1 hrow]
    trivial
  | change period field =>
    obtain ⟨made, -, rfl⟩ := Outcome.bind_some_eq_ok.1 h
    exact hcells value hvalue
  | rolling field window =>
    obtain ⟨made, -, rfl⟩ := Outcome.bind_some_eq_ok.1 h
    exact hcells value hvalue
  | yearToDate field =>
    obtain ⟨made, -, rfl⟩ := Outcome.bind_some_eq_ok.1 h
    exact hcells value hvalue
  | choice condition yes no =>
    obtain ⟨made, hmade, rfl⟩ := Outcome.bind_some_eq_ok.1 h
    obtain ⟨row, -, hrow⟩ := Outcome.exists_source_of_mapM hmade hvalue
    obtain ⟨accepted, -, hrow⟩ := Outcome.bind_eq_ok.1 hrow
    rw [← (Value.normalize_eq_ok.1 hrow).2]
    exact Value.isScalar_normalized _
  | rank field =>
    obtain ⟨made, -, rfl⟩ := Outcome.bind_some_eq_ok.1 h
    obtain ⟨rank, -, rfl⟩ := List.mem_map.1 hvalue
    trivial
  | unsupported type => cases h

theorem isScalar_apply {c : Calculation} {rows out : List Row}
    (hrows : ∀ row ∈ rows, row.IsScalar) (h : c.apply rows = .ok out) :
    ∀ row ∈ out, row.IsScalar := by
  obtain ⟨values, hvalues, h⟩ := Outcome.bind_eq_ok.1 h
  cases values with
  | none => exact Outcome.pure_eq_ok.1 h ▸ hrows
  | some values =>
    rw [← Outcome.pure_eq_ok.1 h]
    intro row hrow
    obtain ⟨i, hi, rfl⟩ := List.getElem_of_mem hrow
    simp only [assign, List.getElem_zipWith]
    exact (hrows _ (List.getElem_mem _)).put
      (isScalar_values hvalues _ (List.getElem_mem _))

theorem isScalar_applyAll {calculations : List Calculation} {rows out : List Row}
    (hrows : ∀ row ∈ rows, row.IsScalar) (h : applyAll calculations rows = .ok out) :
    ∀ row ∈ out, row.IsScalar := by
  rw [applyAll] at h
  split at h
  · exact Except.ok.inj h ▸ hrows
  · clear * - hrows h
    induction calculations generalizing rows with
    | nil => exact Outcome.pure_eq_ok.1 h ▸ hrows
    | cons c rest ih =>
      rw [List.foldlM_cons] at h
      obtain ⟨next, hnext, h⟩ := Outcome.bind_eq_ok.1 h
      exact ih (isScalar_apply hrows hnext) h

end Calculation

/-- The cells of a column that has a total have texts, if they are no lists and no objects. -/
theorem isWritable_of_columnTotals {rows : List Row} (hrows : ∀ row ∈ rows, row.IsScalar)
    {columns : List String} {totals : Keyed Number} (h : columnTotals rows columns = .ok totals)
    {column : String} (hcolumn : column ∈ columns) :
    ∀ row ∈ rows, (row.cell column).IsWritable := by
  intro row hrow
  obtain ⟨total, htotal, -⟩ := get?_columnTotals h hcolumn
  obtain ⟨numbers, hnumbers, -⟩ := Outcome.bind_eq_ok.1 htotal
  obtain ⟨n, hn⟩ := Outcome.exists_of_mem_mapM hnumbers hrow
  exact (hrows row hrow column).isWritable_of_toNumber hn

/-- The cells of dimensions that no measure writes over have texts: rows were grouped by these. -/
theorem isWritable_of_groupRows {view : View} {rows grouped : List Row}
    (h : groupRows view rows = .ok grouped) {field : String} (hfield : field ∈ view.dimensions)
    (hlabel : field ∉ view.measures.map (·.label)) :
    ∀ row ∈ grouped, (row.cell field).IsWritable := by
  have hkeyable := isKeyable_of_groupRows h
  rw [groupRows_eq hkeyable] at h
  intro row hrow
  obtain ⟨k, -, hgroup⟩ := Outcome.exists_source_of_mapM h hrow
  rw [Grouping.cell_addMeasures_of_not_mem hlabel (Grouping.groupRow_eq_ok.1 hgroup).2,
    Grouping.cell_plainCells _ hfield]
  cases hmembers : fiber (Grouping.plainKey view.dimensions) rows k with
  | nil => trivial
  | cons first others =>
    have hfirst := hmembers ▸ List.mem_cons_self (a := first)
    exact Value.isWritable_normalized (hkeyable first (mem_fiber.1 hfirst).1 field hfield)

namespace Table

variable {view : View} {calculations : List Calculation} {page pageSize : Int}
  {rows ordered : List Row} {table : Table}

theorem isWritable_of_allRows (h : allRows view calculations rows = .ok ordered) {field : String}
    (hfield : field ∈ view.dimensions) (hlabel : field ∉ view.measures.map (·.label))
    (houtput : field ∉ Calculation.outputs calculations) :
    ∀ row ∈ ordered, (row.cell field).IsWritable := by
  obtain ⟨grouped, calculated, hgrouped, hcalculated, hordered⟩ := allRows_inv h
  intro row hrow
  have hmem : row ∈ calculated := (SortRule.perm_sortRows hordered).subset hrow
  obtain ⟨before, hbefore, hkeeps⟩ :=
    Outcome.exists_of_mem_right (Calculation.forall₂_applyAll hcalculated) hmem
  rw [Keyed.cell, hkeeps field houtput]
  exact isWritable_of_groupRows hgrouped hfield hlabel before hbefore

/-- No cell of a table is a list or an object. -/
theorem isScalar_of_allRows (h : allRows view calculations rows = .ok ordered) :
    ∀ row ∈ ordered, row.IsScalar := by
  obtain ⟨grouped, calculated, hgrouped, hcalculated, hordered⟩ := allRows_inv h
  have hgroups : ∀ row ∈ grouped, row.IsScalar := by
    obtain ⟨keys, -, hgroups⟩ := Outcome.bind_eq_ok.1 hgrouped
    intro row hrow
    obtain ⟨members, -, hmembers⟩ := Outcome.exists_source_of_mapM hgroups hrow
    exact Grouping.isScalar_groupRow hmembers
  intro row hrow
  have hmem : row ∈ calculated := (SortRule.perm_sortRows hordered).subset hrow
  exact Calculation.isScalar_applyAll hgroups hcalculated row hmem

/-- **Cells under names have texts.** -/
theorem isWritable_of_build
    (h : build view calculations page pageSize rows = .ok (table, ordered)) {column : String}
    (hcolumn : column ≠ "") : ∀ row ∈ ordered, (row.cell column).IsWritable := by
  obtain ⟨hordered, htotals, -, -⟩ := build_inv h
  intro row hrow
  by_cases hmetric : column ∈ metricColumns view calculations
  · exact isWritable_of_columnTotals (isScalar_of_allRows hordered) htotals hmetric row hrow
  · -- What is not totalled is no label and no output.
    have hnames : column ∉ view.measures.map (·.label) ++ calculations.map (·.output) := by
      intro hmem
      rw [metricColumns, mem_firsts, List.mem_filter] at hmetric
      exact hmetric ⟨hmem, decide_eq_true hcolumn⟩
    rw [List.mem_append, not_or] at hnames
    have houtput : column ∉ Calculation.outputs calculations := fun hmem =>
      hnames.2 ((List.filter_sublist.map _).subset hmem)
    by_cases hdimension : column ∈ view.dimensions
    · exact isWritable_of_allRows hordered hdimension hnames.1 houtput row hrow
    · have habsent : column ∉ row.keys := by
        rw [keys_of_allRows hordered row hrow, fields, mem_firsts]
        simp [hdimension, hnames.1, houtput]
      rw [Keyed.cell_of_not_mem habsent]
      trivial

theorem rows_of_build (h : build view calculations page pageSize rows = .ok (table, ordered)) :
    table.rows = paginate ordered page pageSize := by
  obtain ⟨all, hall, h⟩ := Outcome.bind_eq_ok.1 h
  obtain ⟨totals, htotals, h⟩ := Outcome.bind_eq_ok.1 h
  obtain ⟨rfl, rfl⟩ := Prod.mk.inj (Outcome.pure_eq_ok.1 h)
  rfl

/-- The rows of a page are rows of the table. -/
theorem rows_subset_of_build
    (h : build view calculations page pageSize rows = .ok (table, ordered)) :
    table.rows ⊆ ordered := by
  rw [rows_of_build h]
  exact fun row hrow => List.mem_of_mem_take (List.mem_of_mem_drop hrow)

/-- **Tables are rectangular.** The rows of a table have its columns as keys, in order: the row
fields, the column fields, the labels and what the calculations write, each where it comes first. So
the page of a table is exported as soon as its unnamed cells have texts, and the header and the
texts of all its cells are read back from the export. -/
theorem build_rectangular
    (h : build view calculations page pageSize rows = .ok (table, ordered)) :
    (ordered ≠ [] → table.columns = firsts (view.rowFields ++ view.columnFields ++
      view.measures.map (·.label) ++ Calculation.outputs calculations)) ∧
    (∀ row ∈ ordered, row.keys = table.columns) ∧
    ∀ result : RunResult, result.table = table → table.columns ≠ [] →
      ((∃ s, result.exportText .aggregated = .ok s) ↔
        ∀ row ∈ table.rows, (row.cell "").IsWritable) ∧
      ∀ s, result.exportText .aggregated = .ok s →
        ∃ records, Csv.quotedRecords? s.toList = some (table.columns :: records) ∧
          List.Forall₂ (fun row record =>
            List.Forall₂ (fun value cell => Csv.cellText value = .ok cell) row.values record)
            table.rows records := by
  obtain ⟨hordered, -, hcolumns, -⟩ := build_inv h
  rw [columnsOf_eq hordered] at hcolumns
  have hfields : ordered ≠ [] → table.columns = fields view calculations := by
    intro hne
    rw [hcolumns, if_neg (mt List.isEmpty_iff.1 hne)]
  have hkeys : ∀ row ∈ ordered, row.keys = table.columns := by
    intro row hrow
    rw [hfields (List.ne_nil_of_mem hrow), keys_of_allRows hordered row hrow]
  refine ⟨hfields, hkeys, ?_⟩
  rintro result rfl hne
  have hheader : Csv.headerOf result.table.columns result.table.rows = result.table.columns :=
    if_neg (mt List.isEmpty_iff.1 hne)
  have hpage := rows_subset_of_build h
  refine ⟨?_, fun s hs => ?_⟩
  · rw [RunResult.exportText, Csv.exists_ofRows_iff, hheader]
    refine ⟨fun hcells row hrow => ?_, fun hunnamed row hrow column _ => ?_⟩
    · by_cases hempty : "" ∈ result.table.columns
      · exact hcells row hrow "" hempty
      · rw [Keyed.cell_of_not_mem (hkeys row (hpage hrow) ▸ hempty)]
        trivial
    · by_cases hcolumn : column = ""
      · exact hcolumn ▸ hunnamed row hrow
      · exact isWritable_of_build h hcolumn row (hpage hrow)
  · obtain ⟨cells, hcells, hread⟩ := (Csv.ofRows_eq_ok_iff_read (hheader.symm ▸ hne)).1 hs
    rw [hheader] at hcells
    obtain ⟨records, rfl, hrecords⟩ := Csv.table_eq_ok.1 hcells
    refine ⟨records, hread, ((List.forall₂_and_left _ _).2 ⟨hpage, hrecords⟩).imp ?_⟩
    rintro row record ⟨hrow, hwritten⟩
    rw [← Keyed.map_cell_keys, hkeys row hrow]
    exact List.forall₂_map_left_iff.2 hwritten

theorem build_rectangular_regional :
    ∃ table, build regionalSales [totalChange] 1 2 sales = .ok (table, regionalChanges) ∧
      table.columns = ["region", "total", "number", "least", "change"] ∧
      (∀ row ∈ regionalChanges, row.keys = table.columns) ∧
      ∀ result : RunResult, result.table = table → ∃ s, result.exportText .aggregated = .ok s ∧
        Csv.quotedRecords? s.toList = some [table.columns, ["north", "6", "3", "-4", "0"],
          ["south", "5", "1", "5", "-1"]] := by
  have hmade : (groupRows regionalSales sales >>= Calculation.applyAll [totalChange]) =
      .ok regionalChanges := by decide +kernel
  obtain ⟨table, h⟩ := exists_build_regional hmade (by decide +kernel) 1 2
  obtain ⟨hcolumns, hkeys, hexport⟩ := build_rectangular h
  have hheader : table.columns = ["region", "total", "number", "least", "change"] :=
    (hcolumns (List.cons_ne_nil _ _)).trans (by decide +kernel)
  have hrows : table.rows = regionalChanges := (rows_of_build h).trans (by decide +kernel)
  refine ⟨table, h, hheader, hkeys, fun result hresult => ?_⟩
  obtain ⟨hexists, hread⟩ := hexport result hresult (hheader ▸ List.cons_ne_nil _ _)
  obtain ⟨s, hs⟩ := hexists.2 (hrows ▸ (by decide +kernel))
  obtain ⟨records, hrecords, hcells⟩ := hread s hs
  rw [hrows] at hcells
  have hmapped : regionalChanges.mapM (fun row => row.values.mapM Csv.cellText) = .ok records :=
    Outcome.mapM_eq_ok.2 (hcells.imp fun _ _ => Outcome.mapM_eq_ok.2)
  have htexts : regionalChanges.mapM (fun row => row.values.mapM Csv.cellText) =
      .ok [["north", "6", "3", "-4", "0"], ["south", "5", "1", "5", "-1"]] := by decide +kernel
  obtain rfl := Except.ok.inj (hmapped.symm.trans htexts)
  exact ⟨s, hs, hrecords⟩

/-- The sales of the east, an integer that a double can still stand for. -/
def greatSales : List Row := [.ofList [("region", .text "east"), ("amount", .int (10 ^ 300))]]

/-- The product of fifteen totals, under no name. -/
def unnamedPower : Calculation :=
  ⟨"", "", "", .arithmetic ("total" ++ String.join (List.replicate 14 " * total"))⟩

/-- A table may have no export. -/
theorem exists_table_unexported :
    ¬ ∀ (view : View) (calculations : List Calculation) (page pageSize : Int) (rows : List Row)
      (table : Table) (ordered : List Row),
      build view calculations page pageSize rows = .ok (table, ordered) → ordered ≠ [] →
      ∀ result : RunResult, result.table = table → table.columns ≠ [] →
        ∃ s, result.exportText .aggregated = .ok s := by
  intro h
  have hbuilt : (build regionalSales [unnamedPower] 1 2 greatSales).map (fun made =>
      (made.1.columns, made.2.length, (Csv.ofRows made.1.columns made.1.rows).isOk)) =
        .ok (["region", "total", "number", "least", ""], 1, false) := by decide +kernel
  obtain ⟨⟨table, ordered⟩, hmade, hfacts⟩ := Outcome.map_eq_ok.1 hbuilt
  obtain ⟨hcolumns, hlength, hunwritten⟩ : table.columns = _ ∧ ordered.length = 1 ∧
    (Csv.ofRows table.columns table.rows).isOk = false := by simpa using hfacts
  let result : RunResult :=
    { reportId := none, reportTitle := "", datasetIds := [], view := regionalSales
      appliedFilters := [], appliedParameters := .empty, generatedAt := "", table, charts := []
      insights := ⟨[], ""⟩, rawRows := [] }
  obtain ⟨s, hs⟩ := h _ _ _ _ _ table ordered hmade (List.ne_nil_of_length_pos (by omega)) result
    rfl (hcolumns ▸ List.cons_ne_nil _ _)
  have hwritten : (Csv.ofRows table.columns table.rows).isOk = true := by
    rw [show Csv.ofRows table.columns table.rows = .ok s from hs]
    rfl
  cases hunwritten.symm.trans hwritten

end Table

end Reporting
