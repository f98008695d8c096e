import Mathlib.Data.List.Nodup
import Reporting.Proofs.Confidentiality

/-!
# Sheets as they are loaded

A row of a sheet holds the cells of its columns at one position (`Sheet.records_eq`). A sheet is
loaded with the id of its dataset in front and, where they are derived, with fiscal years behind
(`Registry.LoadedAs`). That fails for a column of the reserved name, and only then if names are
distinct and the clock tells the year (`Registry.exists_loadedSheet`).
-/

namespace Reporting

namespace Sheet

/-! ## Rows of a sheet -/

/-- The row at a position. -/
def row (sheet : Sheet) (i : Nat) : Row :=
  Keyed.ofList (sheet.columns.map fun column => (column.1, column.2.cells.getD i .null))

theorem rowsOf_eq (n : Nat) (columns : List (String × List Value)) :
    rowsOf n columns = (List.range n).map fun i =>
      Keyed.ofList (columns.map fun column => (column.1, column.2.getD i .null)) := by
  induction n generalizing columns with
  | zero => rfl
  | succ n ih =>
    rw [rowsOf, ih, List.range_succ_eq_map, List.map_cons, List.map_map]
    simp only [List.map_map, Function.comp_def, List.getD_eq_getElem?_getD,
      List.headD_eq_head?_getD, List.head?_eq_getElem?, List.getElem?_tail]

theorem records_eq (sheet : Sheet) : sheet.records = (List.range sheet.size).map sheet.row := by
  rw [records, rowsOf_eq]
  simp only [List.map_map]
  rfl

variable {sheet : Sheet} {i : Nat} {name : String} {value : Value} {column : Column}

/-- A cell of a row is one of a column with its name. -/
theorem exists_column_of_get?_row (h : (sheet.row i).get? name = some value) :
    ∃ column, (name, column) ∈ sheet.columns ∧ value = column.cells.getD i .null := by
  obtain ⟨⟨other, column⟩, hcolumn, heq⟩ := List.mem_map.1 (Keyed.mem_of_get?_ofList h)
  obtain ⟨rfl, rfl⟩ := Prod.mk.inj heq
  exact ⟨column, hcolumn, rfl⟩

/-- Columns with distinct names all have their cells in a row. -/
theorem get?_row (hnames : sheet.names.Nodup) (h : (name, column) ∈ sheet.columns) :
    (sheet.row i).get? name = some (column.cells.getD i .null) := by
  have hentries : ((sheet.columns.map fun column =>
      (column.1, column.2.cells.getD i .null)).map Prod.fst).Nodup := by
    rw [List.map_map]
    exact hnames
  rw [row, Keyed.get?_ofList hentries, Keyed.find?_eq_some_iff hentries]
  exact List.mem_map.2 ⟨(name, column), h, rfl⟩

theorem exists_column? (hnames : sheet.names.Nodup) (h : name ∈ sheet.names) :
    ∃ column, sheet.column? name = some column := by
  have hlength : (sheet.columns.filter (·.1 = name)).length = 1 := by
    have hcount := List.count_eq_one_of_mem hnames h
    rwa [names, List.count_eq_length_filter, List.filter_map, List.length_map] at hcount
  obtain ⟨⟨other, column⟩, hcolumn⟩ := List.length_eq_one_iff.1 hlength
  exact ⟨column, by rw [column?, hcolumn]⟩

theorem mem_names (h : (name, column) ∈ sheet.columns) : name ∈ sheet.names :=
  List.mem_map_of_mem h

end Sheet

namespace Registry

/-! ## Sheets with their dataset and fiscal years -/

/-- A sheet with the id of its dataset in front. -/
def namedSheet (id : String) (sheet : Sheet) : Sheet :=
  ⟨(datasetColumn, .texts (List.replicate sheet.size (some id))) :: sheet.columns⟩

/-- A named sheet with fiscal years behind. -/
def datedSheet (id : String) (sheet : Sheet) (years : List Int) : Sheet :=
  ⟨(namedSheet id sheet).columns ++ [(fiscalColumn, .integers (years.map some))]⟩

/-- How the sheet of a dataset is loaded. -/
inductive LoadedAs (id : String) (d : Dataset) (sheet : Sheet) (startMonth : Int)
    (now : ClockReading) : Sheet → Prop
  | named : LoadedAs id d sheet startMonth now (namedSheet id sheet)
  /-- Fiscal years are derived from the declared column of dates. -/
  | dated {field : String} {dates : Column} {years : List Int}
    (declared : d.fiscalDateField = some field)
    (column : (namedSheet id sheet).column? field = some dates)
    (derived : FiscalYear.ofColumn startMonth now dates = .ok years)
    (fresh : fiscalColumn ∉ (namedSheet id sheet).names) :
    LoadedAs id d sheet startMonth now (datedSheet id sheet years)

section Load

variable {id : String} {d : Dataset} {sheet loaded : Sheet} {startMonth : Int} {now : ClockReading}

theorem loadedSheet_of_reserved (h : datasetColumn ∈ sheet.names) :
    loadedSheet id d sheet startMonth now = .error .reservedColumn := by
  rw [loadedSheet, if_pos (List.contains_iff_mem.2 h)]
  rfl

theorem loadedAs_of_loadedSheet (h : loadedSheet id d sheet startMonth now = .ok loaded) :
    datasetColumn ∉ sheet.names ∧ LoadedAs id d sheet startMonth now loaded := by
  by_cases hreserved : datasetColumn ∈ sheet.names
  · rw [loadedSheet_of_reserved hreserved] at h
    cases h
  refine ⟨hreserved, ?_⟩
  rw [loadedSheet, if_neg (by simpa using hreserved)] at h
  cases hfield : d.fiscalDateField.filter (· ≠ "") with
  | none =>
    simp only [hfield] at h
    rw [← Outcome.pure_eq_ok.1 h]
    exact .named
  | some field =>
    simp only [hfield] at h
    split at h
    · next hcolumns =>
      split at h
      · next dates hdates =>
        obtain ⟨years, hyears, h⟩ := Outcome.bind_eq_ok.1 h
        rw [← Outcome.pure_eq_ok.1 h]
        exact .dated (Option.eq_some_of_filter_eq_some hfield) hdates hyears
          fun hmem => hcolumns.2 (List.contains_iff_mem.2 hmem)
      · cases h
    · rw [← Outcome.pure_eq_ok.1 h]
      exact .named

/-- A sheet without the reserved name is loaded if its names are distinct and the clock tells the
year. -/
theorem exists_loadedSheet (id : String) (d : Dataset) (startMonth : Int)
    (hreserved : datasetColumn ∉ sheet.names) (hnames : sheet.names.Nodup)
    (hclock : ∃ year, FiscalYear.calendarYear now = .ok year) :
    ∃ loaded, loadedSheet id d sheet startMonth now = .ok loaded := by
  have hnamed : (namedSheet id sheet).names.Nodup := List.nodup_cons.2 ⟨hreserved, hnames⟩
  rw [loadedSheet, if_neg (by simpa using hreserved)]
  cases d.fiscalDateField.filter (· ≠ "") with
  | none => exact ⟨_, rfl⟩
  | some field =>
    simp only []
    split
    · next hcolumns =>
      obtain ⟨dates, hdates⟩ := Sheet.exists_column? hnamed (List.contains_iff_mem.1 hcolumns.1)
      obtain ⟨year, hyear⟩ := hclock
      rw [namedSheet] at hdates
      simp only [hdates, FiscalYear.ofColumn, hyear]
      exact ⟨_, rfl⟩
    · exact ⟨_, rfl⟩

namespace LoadedAs

variable (h : LoadedAs id d sheet startMonth now loaded)

include h

theorem size_eq : loaded.size = sheet.size := by
  cases h <;> simp [namedSheet, datedSheet, Sheet.size, Column.size]

theorem datasetColumn_mem :
    (datasetColumn, Column.texts (List.replicate sheet.size (some id))) ∈ loaded.columns := by
  cases h <;> simp [namedSheet, datedSheet]

theorem mem_columns {name : String} {column : Column} (hcolumn : (name, column) ∈ sheet.columns) :
    (name, column) ∈ loaded.columns := by
  cases h <;> simp [namedSheet, datedSheet, hcolumn]

theorem nodup_names (hreserved : datasetColumn ∉ sheet.names) (hnames : sheet.names.Nodup) :
    loaded.names.Nodup := by
  have hnamed : (namedSheet id sheet).names.Nodup := List.nodup_cons.2 ⟨hreserved, hnames⟩
  cases h with
  | named => exact hnamed
  | dated _ _ _ fresh =>
    rw [datedSheet, Sheet.names, List.map_append]
    refine List.nodup_append.2 ⟨hnamed, List.nodup_singleton _, fun name hname other hother => ?_⟩
    rintro rfl
    obtain rfl : name = fiscalColumn := List.mem_singleton.1 hother
    exact fresh hname

end LoadedAs

end Load

/-! ## Loading a single dataset -/

/-- A single dataset is loaded without merging. -/
theorem loadRows_singleton {registry : Registry} {p : Principal} {id : String} {d : Dataset}
    {sheet : Sheet} (hd : registry.datasets.get? id = some d) (hp : d.permits p .view = true)
    (hsheet : registry.sheets.get? id = some sheet) (startMonth : Int) (now : ClockReading) :
    registry.loadRows p [id] startMonth now =
      (loadedSheet id d sheet startMonth now).map Sheet.records := by
  have hallowed : ((registry.accessible p .view).map (·.id)).contains id = true :=
    List.contains_iff_mem.2 (mem_map_id_accessible.2 ⟨d, hd, hp⟩)
  simp only [loadRows, List.filter_cons_of_pos hallowed, List.filter_nil, List.mapM_cons,
    List.mapM_nil, datasetRows, hd, hsheet]
  cases loadedSheet id d sheet startMonth now with
  | error failure => rfl
  | ok loaded => exact congrArg Except.ok (List.append_nil _)

end Registry

end Reporting
