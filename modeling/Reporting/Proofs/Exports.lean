import Reporting.Export
import Reporting.Proofs.CsvReading

/-!
# What exports hold

Raw rows and chart points are exported in the columns of the first of them. A cell of a later row
can be read back exactly if the first row has its field (`Csv.cellAt_iff`); the cells of other
fields are lost (`RunResult.exports_hold`).
-/

namespace Reporting

namespace Csv

/-! ## Cells of a text -/

/-- The cell that is read from a text in a column, in the record at a position behind the header. -/
def CellAt (s : String) (position : Nat) (column cell : String) : Prop :=
  ∃ header records record, quotedRecords? s.toList = some (header :: records) ∧
    records[position]? = some record ∧ (column, cell) ∈ header.zip record

/-- A value is written in a column, in the record at a position. -/
def Holds (s : String) (position : Nat) (column : String) (value : Value) : Prop :=
  ∃ cell, cellText value = .ok cell ∧ CellAt s position column cell

theorem mem_zip_of_isWrittenAs {header cells : List String} {row : Row}
    (h : IsWrittenAs header row cells) {column cell : String} :
    (column, cell) ∈ header.zip cells ↔
      column ∈ header ∧ cellText (row.cell column) = .ok cell := by
  induction h with
  | nil => simp
  | cons hcell _ ih =>
    rw [List.zip_cons_cons, List.mem_cons, List.mem_cons, ih]
    constructor
    · rintro (heq | ⟨hmem, htext⟩)
      · obtain ⟨rfl, rfl⟩ := Prod.mk.inj heq
        exact ⟨.inl rfl, hcell⟩
      · exact ⟨.inr hmem, htext⟩
    · rintro ⟨rfl | hmem, htext⟩
      · exact .inl (by rw [Except.ok.inj (hcell.symm.trans htext)])
      · exact .inr ⟨hmem, htext⟩

theorem cellText_text (s : String) : cellText (.text s) = .ok s := by
  have hwritable : (Value.text s).IsWritable := trivial
  rw [cellText, Value.toText, if_pos hwritable]
  · rfl
  · intro b hb
    cases hb

theorem headerOf_columnsOf (rows : List Row) : headerOf (columnsOf rows) rows = columnsOf rows := by
  rw [headerOf]
  split <;> rfl

section Rows

variable {rows : List Row} {row : Row} {s : String} {position : Nat}

/-- **What is read in a row are its cells in the columns of the first row.** -/
theorem cellAt_iff (hs : ofRows (columnsOf rows) rows = .ok s)
    (hrow : rows[position]? = some row) {column cell : String} :
    CellAt s position column cell ↔
      column ∈ columnsOf rows ∧ cellText (row.cell column) = .ok cell := by
  by_cases hcolumns : columnsOf rows = []
  · -- Without columns nothing is written.
    have hempty : s = "" := by
      obtain ⟨cells, hcells, rfl⟩ := ofRows_eq_ok.1 hs
      obtain ⟨records, rfl, -⟩ := table_eq_ok.1 hcells
      rw [headerOf_columnsOf, hcolumns]
      rfl
    rw [hcolumns, hempty, CellAt]
    simp [quotedRecords?]
  · have hheader : headerOf (columnsOf rows) rows ≠ [] := by rwa [headerOf_columnsOf]
    obtain ⟨cells, hcells, hread⟩ := (ofRows_eq_ok_iff_read hheader).1 hs
    obtain ⟨records, rfl, hrecords⟩ := table_eq_ok.1 hcells
    rw [headerOf_columnsOf] at hread hrecords
    have hposition : position < records.length :=
      hrecords.length_eq ▸ (List.getElem?_eq_some_iff.1 hrow).1
    have hwritten : IsWrittenAs (columnsOf rows) row records[position] := by
      obtain ⟨hlt, rfl⟩ := List.getElem?_eq_some_iff.1 hrow
      exact hrecords.get hlt hposition
    rw [← mem_zip_of_isWrittenAs hwritten]
    constructor
    · rintro ⟨header, others, record, hothers, hrecord, hmem⟩
      obtain ⟨rfl, rfl⟩ := List.cons.inj (Option.some.inj (hread.symm.trans hothers))
      rw [List.getElem?_eq_getElem hposition] at hrecord
      rwa [Option.some.inj hrecord]
    · intro hmem
      exact ⟨_, records, _, hread, List.getElem?_eq_getElem hposition, hmem⟩

/-- A cell of a row is written exactly if the first row has its field. -/
theorem holds_iff (hs : ofRows (columnsOf rows) rows = .ok s) (hrow : rows[position]? = some row)
    {field : String} {value : Value} (hvalue : row.get? field = some value) :
    Holds s position field value ↔ field ∈ columnsOf rows := by
  have hcell : row.cell field = value := by rw [Keyed.cell, hvalue, Option.getD_some]
  constructor
  · rintro ⟨cell, -, hat⟩
    exact ((cellAt_iff hs hrow).1 hat).1
  · intro hfield
    have hwritable : (row.cell field).IsWritable :=
      exists_ofRows_iff.1 ⟨s, hs⟩ row (List.mem_of_getElem? hrow) field
        (by rwa [headerOf_columnsOf])
    obtain ⟨cell, htext⟩ := exists_cellText_iff.2 hwritable
    exact ⟨cell, hcell ▸ htext, (cellAt_iff hs hrow).2 ⟨hfield, htext⟩⟩

end Rows

end Csv

namespace RunResult

/-! ## Chart rows -/

/-- The points of all charts, each with its chart. -/
def chartPoints (result : RunResult) : List (Chart × Row) :=
  result.charts.flatMap fun chart => chart.points.map fun point => (chart, point)

theorem chartRows_eq (result : RunResult) :
    result.chartRows = result.chartPoints.map fun placed => chartRow placed.1 placed.2 := by
  rw [chartRows, chartPoints, List.map_flatMap]
  simp only [List.map_map]
  rfl

/-- The id and the title of its visual are in front of a point, unless the point has fields of these
names. -/
theorem get?_chartRow (chart : Chart) (point : Row) (field : String) :
    (chartRow chart point).get? field =
      (point.get? field).or
        (if field = "visual_id" then some (.text chart.visualId)
        else if field = "visual_title" then some (.text chart.title)
        else none) := by
  rw [chartRow, Keyed.get?_foldl_put point.nodup, Keyed.get?_put, Keyed.get?_put, Keyed.get?_empty]
  by_cases hid : field = "visual_id"
  · subst hid
    rfl
  · by_cases htitle : field = "visual_title"
    · subst htitle
      rfl
    · simp [hid, htitle, Ne.symm hid, Ne.symm htitle, Keyed.get?]

section Chart

variable {result : RunResult} {s : String} {i : Nat} {chart : Chart} {point : Row}

theorem getElem?_chartRows (hpoint : result.chartPoints[i]? = some (chart, point)) :
    result.chartRows[i]? = some (chartRow chart point) := by
  rw [chartRows_eq, List.getElem?_map, hpoint]
  rfl

/-- A name that is in front of every point is a column of the chart rows. -/
theorem mem_columnsOf_chartRows (hpoint : result.chartPoints[i]? = some (chart, point))
    {name : String} (hname : ∀ chart point, ((chartRow chart point).get? name).isSome) :
    name ∈ Csv.columnsOf result.chartRows := by
  have hne : result.chartPoints ≠ [] := List.ne_nil_of_mem (List.mem_of_getElem? hpoint)
  obtain ⟨first, rest, hfirst⟩ := List.exists_cons_of_ne_nil hne
  rw [chartRows_eq, hfirst]
  exact Keyed.mem_keys.2 (Option.isSome_iff_exists.1 (hname _ _))

/-- A text in front of a point is exported unless a cell of the point takes its place. -/
theorem cellAt_front_iff (hs : result.exportText .chart = .ok s)
    (hpoint : result.chartPoints[i]? = some (chart, point)) {name front : String}
    (hname : name ∈ Csv.columnsOf result.chartRows)
    (hget : (chartRow chart point).get? name = (point.get? name).or (some (.text front))) :
    Csv.CellAt s i name front ↔
      ∀ value, point.get? name = some value → Csv.cellText value = .ok front := by
  rw [Csv.cellAt_iff hs (getElem?_chartRows hpoint), and_iff_right hname, Keyed.cell, hget]
  cases point.get? name with
  | none => simp [Csv.cellText_text]
  | some value => simp

end Chart

/-- What the exports of the raw rows and of the chart points of a run hold. -/
structure ExportsFirstFields (result : RunResult) : Prop where
  /-- Raw rows can be exported exactly if their cells in the columns can be written. -/
  exists_raw : (∃ s, result.exportText .raw = .ok s) ↔
    ∀ row ∈ result.rawRows, ∀ field ∈ Csv.columnsOf result.rawRows, (row.cell field).IsWritable
  /-- A cell of a raw row is exported exactly if the first row has its field. -/
  raw : ∀ s, result.exportText .raw = .ok s →
    ∀ i row, result.rawRows[i]? = some row → ∀ field value, row.get? field = some value →
      (Csv.Holds s i field value ↔ field ∈ Csv.columnsOf result.rawRows)
  /-- Chart points can be exported exactly if their cells in the columns can be written. -/
  exists_chart : (∃ s, result.exportText .chart = .ok s) ↔
    ∀ row ∈ result.chartRows, ∀ field ∈ Csv.columnsOf result.chartRows,
      (row.cell field).IsWritable
  /-- A cell of a chart point is exported exactly if the first point has its field. -/
  point : ∀ s, result.exportText .chart = .ok s →
    ∀ i chart point, result.chartPoints[i]? = some (chart, point) →
      ∀ field value, point.get? field = some value →
        (Csv.Holds s i field value ↔ field ∈ Csv.columnsOf result.chartRows)
  /-- The id of a visual is exported unless the point has another cell of that name. -/
  visualId : ∀ s, result.exportText .chart = .ok s →
    ∀ i chart point, result.chartPoints[i]? = some (chart, point) →
      (Csv.CellAt s i "visual_id" chart.visualId ↔
        ∀ value, point.get? "visual_id" = some value → Csv.cellText value = .ok chart.visualId)
  /-- The title of a visual is exported unless the point has another cell of that name. -/
  visualTitle : ∀ s, result.exportText .chart = .ok s →
    ∀ i chart point, result.chartPoints[i]? = some (chart, point) →
      (Csv.CellAt s i "visual_title" chart.title ↔
        ∀ value, point.get? "visual_title" = some value → Csv.cellText value = .ok chart.title)

/-- **A cell of a raw row or of a chart point is exported exactly if the first row or the first
point has its field**, and the id and the title of a visual as long as the point has no other cell
of that name. -/
theorem exports_hold (result : RunResult) : result.ExportsFirstFields := by
  have hwritable : ∀ rows : List Row, (∃ s, Csv.ofRows (Csv.columnsOf rows) rows = .ok s) ↔
      ∀ row ∈ rows, ∀ field ∈ Csv.columnsOf rows, (row.cell field).IsWritable := by
    intro rows
    rw [Csv.exists_ofRows_iff, Csv.headerOf_columnsOf]
  exact {
    exists_raw := hwritable _
    raw := fun s hs i row hrow field value hvalue => Csv.holds_iff hs hrow hvalue
    exists_chart := hwritable _
    point := by
      intro s hs i chart point hpoint field value hvalue
      refine Csv.holds_iff hs (getElem?_chartRows hpoint) ?_
      rw [get?_chartRow, hvalue, Option.some_or]
    visualId := by
      intro s hs i chart point hpoint
      refine cellAt_front_iff hs hpoint (mem_columnsOf_chartRows hpoint fun chart point => ?_)
        (get?_chartRow chart point "visual_id")
      simp [get?_chartRow]
    visualTitle := by
      intro s hs i chart point hpoint
      refine cellAt_front_iff hs hpoint (mem_columnsOf_chartRows hpoint fun chart point => ?_)
        (get?_chartRow chart point "visual_title")
      simp [get?_chartRow] }

/-- Nothing is lost: both exports can be written and hold all cells, those of the charts beside the
id and the title of their visuals. -/
def ExportsAll (result : RunResult) : Prop :=
  (result.rawRows ≠ [] → ∃ s, result.exportText .raw = .ok s ∧
    ∀ i row, result.rawRows[i]? = some row → ∀ field value, row.get? field = some value →
      Csv.Holds s i field value) ∧
  (result.chartPoints ≠ [] → ∃ s, result.exportText .chart = .ok s ∧
    ∀ i chart point, result.chartPoints[i]? = some (chart, point) →
      (∀ field value, point.get? field = some value → Csv.Holds s i field value) ∧
      Csv.CellAt s i "visual_id" chart.visualId ∧ Csv.CellAt s i "visual_title" chart.title)

/-- Two rows of a region, only the second of which has sales. -/
def regionRows : List Row :=
  [.ofList [("region", .text "West")],
    .ofList [("region", .text "West"), ("sales", .number (.int 4))]]

/-- A bar for each region, of the height of a column if one is given. -/
def regionBars (id : String) (column : Option String) : Visual :=
  { id
    title := "By region"
    kind := .bar
    xField := some "region"
    yField := column
    seriesField := none
    metricField := none
    sortBy := none
    sortDirection := none }

/-- The sales by region, drawn twice, the second time with their total. -/
def regionView : View :=
  { id := "regions"
    name := "Regions"
    rowFields := ["region"]
    columnFields := []
    measures := [⟨"sales", "total", "sum", none⟩]
    filters := []
    sort := []
    pageSize := 10
    showTotals := true
    pivotMode := false
    visuals := [regionBars "names" none, regionBars "totals" (some "total")] }

/-- The run of the sales by region. -/
def regionRun : Outcome RunResult := runView 25 (.ok ⟨0⟩) regionRows regionView [] .plain

theorem rawRows_regionRun : regionRun.map RunResult.rawRows = .ok regionRows := by decide +kernel

theorem exports_hold_regions :
    ∃ result raw charts, regionRun = .ok result ∧
      result.exportText .raw = .ok raw ∧ result.exportText .chart = .ok charts ∧
      Csv.Holds raw 1 "region" (.text "West") ∧ ¬ Csv.Holds raw 1 "sales" (.number (.int 4)) ∧
      Csv.CellAt charts 1 "visual_id" "totals" ∧ Csv.Holds charts 1 "region" (.text "West") ∧
      ¬ Csv.Holds charts 1 "total" (.number (.int 4)) := by
  have hpoints : (regionRun.map fun result => result.chartPoints.map fun placed =>
      (placed.1.visualId, placed.2)) =
      .ok [("names", .ofList [("region", .text "West")]),
        ("totals", .ofList [("region", .text "West"), ("total", .number (.int 4))])] := by
    decide +kernel
  have hchartRows : regionRun.map RunResult.chartRows =
      .ok [.ofList [("visual_id", .text "names"), ("visual_title", .text "By region"),
          ("region", .text "West")],
        .ofList [("visual_id", .text "totals"), ("visual_title", .text "By region"),
          ("region", .text "West"), ("total", .number (.int 4))]] := by
    decide +kernel
  obtain ⟨result, hrun, hrows⟩ := Outcome.map_eq_ok.1 rawRows_regionRun
  rw [hrun] at hpoints hchartRows
  have hcharts : result.chartRows = _ := Except.ok.inj hchartRows
  have hexports : result.ExportsFirstFields := exports_hold result
  obtain ⟨raw, hraw⟩ := hexports.exists_raw.2 (by rw [hrows]; decide +kernel)
  obtain ⟨charts, hchart⟩ := hexports.exists_chart.2 (by rw [hcharts]; decide +kernel)
  have hheld := hexports.raw raw hraw 1 _ (by rw [hrows]; rfl)
  -- The second point is that of the second visual.
  obtain ⟨⟨chart, point⟩, hplaced, hpoint⟩ : ∃ placed, result.chartPoints[1]? = some placed ∧
      (placed.1.visualId, placed.2) =
        ("totals", .ofList [("region", .text "West"), ("total", .number (.int 4))]) := by
    have hsecond := congrArg (·[1]?) (Except.ok.inj hpoints)
    rw [List.getElem?_map] at hsecond
    exact Option.map_eq_some_iff.1 hsecond
  obtain ⟨hvisual, rfl⟩ : chart.visualId = "totals" ∧ point = _ := Prod.mk.inj hpoint
  have hshown := hexports.point charts hchart 1 chart _ hplaced
  have hid := hexports.visualId charts hchart 1 chart _ hplaced
  rw [hrows] at hheld
  rw [hcharts] at hshown
  refine ⟨result, raw, charts, hrun, hraw, hchart, ?_, ?_, ?_, ?_, ?_⟩
  · exact (hheld _ _ (by decide +kernel)).2 (by decide +kernel)
  · rw [hheld _ _ (by decide +kernel)]
    decide +kernel
  · exact hvisual ▸ hid.2 (by simp [Keyed.get?_ofList, Keyed.find?])
  · exact (hshown _ _ (by decide +kernel)).2 (by decide +kernel)
  · rw [hshown _ _ (by decide +kernel)]
    decide +kernel

/-- The raw export of a run may lose a cell. -/
theorem exists_export_loses :
    ¬ ∀ (pageSize : Int) (clock : Outcome Moment) (rows : List Row) (view : View)
      (calculations : List Calculation) (input : RunInput) (result : RunResult),
      runView pageSize clock rows view calculations input = .ok result → result.ExportsAll := by
  intro h
  obtain ⟨result, hrun, hraw⟩ := Outcome.map_eq_ok.1 rawRows_regionRun
  obtain ⟨s, hs, hall⟩ := (h _ _ _ _ _ _ result hrun).1 (by rw [hraw]; decide)
  have hsales : Csv.Holds s 1 "sales" (.number (.int 4)) :=
    hall 1 (.ofList [("region", .text "West"), ("sales", .number (.int 4))]) (by rw [hraw]; rfl)
      _ _ (by decide +kernel)
  have hcolumn := (Csv.holds_iff hs (by rw [hraw]; rfl) (by decide +kernel)).1 hsales
  rw [hraw] at hcolumn
  exact absurd hcolumn (by decide +kernel)

end RunResult

end Reporting
