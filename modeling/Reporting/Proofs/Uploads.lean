import Reporting.Proofs.Authorization
import Reporting.Proofs.Sheets

/-!
# Uploads that can be loaded

An upload that is accepted can be loaded by everyone who may view it, and then gives one row for
each record behind the header, in order, with all columns (`State.loadRows_upload`), unless a
column has the name that is reserved for the id of the dataset. The upload does not check for that
name, and such a dataset is never loaded.
-/

namespace Reporting

namespace Csv

/-! ## Records -/

/-- A reader whose finished records all have fields. -/
def Reader.Filled (r : Reader) : Prop := ∀ record ∈ r.records, record ≠ []

theorem Reader.Filled.endRecord {r : Reader} (h : r.Filled) : r.endRecord.Filled := by
  intro record hrecord
  rcases List.mem_cons.1 hrecord with rfl | hrecord
  · simp [endField]
  · exact h record hrecord

theorem Reader.Filled.step {r : Reader} (h : r.Filled) (c : Char) : (r.step c).Filled := by
  have hended := h.endRecord
  rw [Reader.step]
  split <;> repeat' split
  all_goals first | exact h | exact hended

theorem Reader.Filled.readFrom {r : Reader} (h : r.Filled) (cs : List Char) :
    (readFrom r cs).Filled := by
  fun_induction Csv.readFrom r cs with
  | case1 => exact h
  | case2 _ _ _ _ _ _ ih => exact ih (h.step _)
  | case3 _ _ _ _ _ _ ih => exact ih (h.step _)

/-- Every record has a field. -/
theorem ne_nil_of_mem_records? {s : String} {records : List (List String)} {record : List String}
    (h : records? s = some records) (hrecord : record ∈ records) : record ≠ [] := by
  have hfinish : ∀ r : Reader, r.Filled →
      (if r.position = .quoted then none
        else if r.isFresh then some r.records.reverse
        else some r.endRecord.records.reverse) = some records → record ≠ [] := by
    intro r hr hrecords
    split at hrecords
    · cases hrecords
    · split at hrecords
      · rw [← Option.some.inj hrecords, List.mem_reverse] at hrecord
        exact hr record hrecord
      · rw [← Option.some.inj hrecords, List.mem_reverse] at hrecord
        exact hr.endRecord record hrecord
  have hstart : Reader.start.Filled := fun record hrecord => by cases hrecord
  exact hfinish _ (hstart.readFrom _) h

end Csv

/-! ## Cells -/

theorem Column.length_cells (column : Column) : column.cells.length = column.size := by
  cases column <;> simp [cells, values, size]

namespace Upload

/-- A column whose cells are texts read one by one. -/
def ReadsFrom (column : Column) (texts : List String) : Prop :=
  ∃ read : String → Value, column.cells = texts.map read

section Cells

variable {α : Type} {texts : List String}

theorem readsFrom_of_values {column : Column} {read : String → Value}
    (h : column.values = texts.map read) : ReadsFrom column texts := by
  refine ⟨fun text => Column.finiteCell (read text), ?_⟩
  rw [Column.cells, h, List.map_map]
  rfl

theorem readsFrom_integers (read : String → Option Int) :
    ReadsFrom (.integers (texts.map read)) texts :=
  readsFrom_of_values List.map_map

theorem readsFrom_flags (read : String → Option Bool) :
    ReadsFrom (.flags (texts.map read)) texts :=
  readsFrom_of_values List.map_map

theorem readsFrom_texts (read : String → Option String) :
    ReadsFrom (.texts (texts.map read)) texts :=
  readsFrom_of_values List.map_map

theorem readsFrom_narrow (read : String → Option Double) :
    ReadsFrom (narrow (texts.map read)) texts := by
  rw [narrow]
  split
  · rw [List.map_map]
    exact readsFrom_integers _
  · exact readsFrom_of_values List.map_map

theorem eq_map_of_readAll? {read : String → Option α} {cells : List (Option String)}
    {out : List (Option α)} (h : readAll? read cells = some out) :
    out = cells.map fun cell => cell.bind read := by
  rw [readAll?] at h
  induction cells generalizing out with
  | nil => exact (Option.some.inj h).symm
  | cons cell cells ih =>
    rw [List.mapM_cons] at h
    obtain ⟨first, hfirst, h⟩ := Option.bind_eq_some_iff.1 h
    obtain ⟨rest, hrest, h⟩ := Option.bind_eq_some_iff.1 h
    rw [← Option.some.inj h, ih hrest, List.map_cons]
    cases cell with
    | none => rw [← Option.some.inj hfirst]; rfl
    | some text =>
      obtain ⟨a, ha, rfl⟩ := Option.map_eq_some_iff.1 hfirst
      rw [Option.bind_some, ha]

theorem readsFrom_withoutIntegers : ReadsFrom (withoutIntegers (texts.map present?)) texts := by
  rw [withoutIntegers]
  split
  · next doubles hdoubles =>
    rw [eq_map_of_readAll? hdoubles, List.map_map]
    exact readsFrom_narrow _
  · split
    · next flags hflags =>
      rw [eq_map_of_readAll? hflags, List.map_map]
      exact readsFrom_flags _
    · exact readsFrom_texts _

theorem readsFrom_unboundedIntegers : ReadsFrom (unboundedIntegers texts) texts := by
  rw [unboundedIntegers]
  split
  · next integers hintegers =>
    rw [eq_map_of_readAll? hintegers, List.map_map, List.map_map]
    exact readsFrom_of_values rfl
  · exact readsFrom_texts _

theorem integerCells_map_present? (read : String → IntegerReading) (texts : List String) :
    ∃ integer : String → Option Int,
      integerCells read (texts.map present?) = texts.map integer := by
  rw [integerCells, List.map_map]
  exact ⟨_, rfl⟩

theorem readsFrom_largeIntegers : ReadsFrom (largeIntegers texts) texts := by
  obtain ⟨integer, hinteger⟩ := integerCells_map_present? readUnsigned texts
  simp only [largeIntegers, hinteger]
  split
  · exact readsFrom_unboundedIntegers
  · exact readsFrom_withoutIntegers
  · split
    · exact readsFrom_texts _
    · split
      · exact readsFrom_unboundedIntegers
      · exact readsFrom_integers _

/-- The cells of an uploaded column are its texts, read one by one in a way that they choose
together. -/
theorem readsFrom_column (texts : List String) : ReadsFrom (column texts) texts := by
  obtain ⟨integer, hinteger⟩ := integerCells_map_present? readSigned texts
  simp only [column, hinteger]
  split
  · next hempty =>
    rw [List.isEmpty_iff.1 hempty]
    exact ⟨fun _ => .null, rfl⟩
  · split
    · exact readsFrom_largeIntegers
    · exact readsFrom_withoutIntegers
    · split
      · rw [sparseIntegers, List.map_map]
        exact readsFrom_narrow _
      · exact readsFrom_integers _

theorem size_column (texts : List String) : (column texts).size = texts.length := by
  obtain ⟨read, hread⟩ := readsFrom_column texts
  rw [← Column.length_cells, hread, List.length_map]

end Cells

/-! ## Names -/

theorem length_headers_settle (naming : Naming) (position : Nat) :
    (naming.settle position).headers.length = naming.headers.length := by
  simp only [Naming.settle]
  split
  · rfl
  · exact List.length_set

/-- Every header has its column. -/
theorem length_columnNames (header : List String) :
    (columnNames header).length = header.length := by
  have hfold : ∀ (positions : List Nat) (naming : Naming),
      (positions.foldl Naming.settle naming).headers.length = naming.headers.length := by
    intro positions
    induction positions with
    | nil => exact fun naming => rfl
    | cons position rest ih =>
      exact fun naming => (ih _).trans (length_headers_settle naming position)
  simp only [columnNames, hfold, List.length_mapIdx]

theorem columnsOf_eq (records : List (List String)) (names : List String) :
    columnsOf records names = names.mapIdx fun j name =>
      (name, column (records.map fun record => record.getD j "")) := by
  induction names generalizing records with
  | nil => rfl
  | cons name names ih =>
    rw [columnsOf, ih, List.mapIdx_cons]
    simp only [List.map_map, Function.comp_def, List.getD_eq_getElem?_getD,
      List.headD_eq_head?_getD, List.head?_eq_getElem?, List.getElem?_tail]

/-! ## Sheets -/

/-- The names of the columns under a header. -/
def namesOf (header : List String) : List String := (columnNames header).map Text.trim

/-- The text of a record in a column. If the first record is longer than the header, columns start
behind its surplus; a record that is short is filled up. -/
def textAt (header : List String) (records : List (List String)) (record : List String) (j : Nat) :
    String :=
  (record.drop (max header.length (records.headD []).length - header.length)).getD j ""

theorem parse?_eq_some {csv : String} {sheet : Sheet} (h : parse? csv = some sheet) :
    ∃ header records, Csv.records? csv = some (header :: records) ∧
      sheet.columns = (namesOf header).mapIdx fun j name =>
        (name, column (records.map (textAt header records · j))) := by
  rw [parse?] at h
  split at h
  · next header records hrecords =>
    refine ⟨header, records, hrecords, ?_⟩
    simp only [sheet?] at h
    split at h
    · cases h
    · rw [← Option.some.inj h, columnsOf_eq]
      simp only [List.map_map]
      rfl
  · cases h

/-- The positions of items, beside the items. -/
theorem forall₂_range {α : Type} {items : List α} {R : Nat → α → Prop}
    (h : ∀ i a, items[i]? = some a → R i a) :
    List.Forall₂ R (List.range items.length) items := by
  rw [List.forall₂_iff_get]
  refine ⟨List.length_range, fun i _ hi => ?_⟩
  rw [List.get_eq_getElem, List.getElem_range]
  exact h i _ (List.getElem?_eq_getElem hi)

/-- The row that is loaded of a record: it has the id of the dataset, and under the name of each
column what the text of the record there is read as. -/
structure LoadsRecord (id : String) (header : List String) (records : List (List String))
    (read : Nat → String → Value) (row : Row) (record : List String) : Prop where
  dataset : row.get? Registry.datasetColumn = some (.text id)
  cells : ∀ j name, (namesOf header)[j]? = some name →
    row.get? name = some (read j (textAt header records record j))

section Parsed

variable {csv : String} {header : List String} {records : List (List String)} {sheet : Sheet}
  (hrecords : Csv.records? csv = some (header :: records))
  (hcolumns : sheet.columns = (namesOf header).mapIdx fun j name =>
    (name, column (records.map (textAt header records · j))))

include hcolumns

theorem names_eq : sheet.names = namesOf header := by
  rw [Sheet.names, hcolumns]
  refine List.ext_getElem? fun j => ?_
  rw [List.getElem?_map, List.getElem?_mapIdx, Option.map_map]
  exact Option.map_id_apply

theorem mem_columns_of_getElem? {j : Nat} {name : String}
    (hname : (namesOf header)[j]? = some name) :
    (name, column (records.map (textAt header records · j))) ∈ sheet.columns := by
  rw [hcolumns, List.mem_iff_getElem?]
  exact ⟨j, by rw [List.getElem?_mapIdx, hname, Option.map_some]⟩

include hrecords

/-- A sheet has a row for each record behind the header. -/
theorem size_eq : sheet.size = records.length := by
  have hheader : 0 < (namesOf header).length := by
    rw [namesOf, List.length_map, length_columnNames]
    exact List.length_pos_of_ne_nil (Csv.ne_nil_of_mem_records? hrecords List.mem_cons_self)
  obtain ⟨name, names, hnames⟩ := List.exists_cons_of_length_pos hheader
  rw [Sheet.size, hcolumns, hnames, List.mapIdx_cons]
  exact (size_column _).trans (List.length_map _)

/-- The rows of the sheet as it is loaded are those of the records. -/
theorem loadsRecords {id : String} {d : Dataset} {startMonth : Int} {now : ClockReading}
    {loaded : Sheet} {read : Nat → String → Value}
    (hread : ∀ j, (column (records.map (textAt header records · j))).cells =
      (records.map (textAt header records · j)).map (read j))
    (hloaded : Registry.LoadedAs id d sheet startMonth now loaded) (hnodup : loaded.names.Nodup) :
    List.Forall₂ (LoadsRecord id header records read) loaded.records records := by
  have hsize := size_eq hrecords hcolumns
  rw [Sheet.records_eq, hloaded.size_eq, hsize, List.forall₂_map_left_iff]
  refine forall₂_range fun i record hrecord => ⟨?_, fun j name hname => ?_⟩
  · have hi : i < records.length := (List.getElem?_eq_some_iff.1 hrecord).1
    rw [Sheet.get?_row hnodup hloaded.datasetColumn_mem]
    simp [Column.cells, Column.values, Column.finiteCell, hsize, hi]
  · rw [Sheet.get?_row hnodup (hloaded.mem_columns (mem_columns_of_getElem? hcolumns hname)), hread]
    simp [List.getD_eq_getElem?_getD, hrecord]

end Parsed

end Upload

namespace State

/-- A clock that tells the time tells the year. -/
theorem exists_calendarYear {s : State} {now : String} (h : s.stamp = .ok now) :
    ∃ year, FiscalYear.calendarYear s.now = .ok year := by
  rw [stamp] at h
  obtain ⟨m, hm, hiso⟩ := Outcome.bind_eq_ok.1 h
  cases hdate : m.date? with
  | none =>
    unfold Moment.toIso at hiso
    rw [hdate] at hiso
    cases hiso
  | some d =>
    rw [FiscalYear.calendarYear, hm, Outcome.ok_bind, hdate]
    exact ⟨_, rfl⟩

theorem parse?_of_acceptUpload {s : State} {headers : Headers} {upload : UploadRequest}
    {sheet : Sheet} (h : s.acceptUpload headers upload = .ok sheet) :
    Upload.parse? upload.csv = some sheet := by
  rw [acceptUpload] at h
  obtain ⟨p, -, h⟩ := Response.bind_eq_ok.1 h
  split at h
  · cases h
  · split at h
    · cases h
    · next parsed hparsed =>
      split at h
      · cases h
      · split at h
        · split at h
          · rw [hparsed, Except.ok.inj h]
          · cases h
        · rw [hparsed, Except.ok.inj h]

/-- What an upload did that answered with a summary. -/
theorem apiUpload_eq_ok {s t : State} {headers : Headers} {upload : UploadRequest}
    {summary : DatasetSummary} (h : s.apiUpload headers upload = (t, .ok summary)) :
    ∃ sheet stamp, Upload.parse? upload.csv = some sheet ∧ sheet.names.Nodup ∧
      s.stamp = .ok stamp ∧ summary.dataset = (uploadedDataset upload stamp).opened ∧
      t = s.register (uploadedDataset upload stamp) (some sheet) := by
  rw [apiUpload] at h
  split at h
  · cases (Prod.mk.inj h).2
  · next sheet haccepted =>
    split at h
    · cases (Prod.mk.inj h).2
    · next stamp hstamp =>
      obtain ⟨rfl, hsummary⟩ := Prod.mk.inj h
      rw [summary_register] at hsummary
      split at hsummary
      · next hnames =>
        refine ⟨sheet, stamp, parse?_of_acceptUpload haccepted, hnames, hstamp, ?_, rfl⟩
        rw [← Except.ok.inj hsummary]
      · cases hsummary

/-- **What an upload accepts can be loaded, unless a column has the reserved name.** -/
theorem loadRows_upload {s t : State} {headers : Headers} {upload : UploadRequest}
    {summary : DatasetSummary} (h : s.apiUpload headers upload = (t, .ok summary)) :
    ∃ header records read, Csv.records? upload.csv = some (header :: records) ∧
      (∀ j, (Upload.column (records.map (Upload.textAt header records · j))).cells =
        records.map fun record => read j (Upload.textAt header records record j)) ∧
      ∀ p startMonth, summary.dataset.permits p .view = true →
        (Registry.datasetColumn ∈ Upload.namesOf header →
          (t.loadRows p [summary.dataset.id] startMonth).outcome = .error .reservedColumn) ∧
        (Registry.datasetColumn ∉ Upload.namesOf header →
          ∃ rows, (t.loadRows p [summary.dataset.id] startMonth).outcome = .ok rows ∧
            List.Forall₂ (Upload.LoadsRecord summary.dataset.id header records read) rows
              records) := by
  obtain ⟨sheet, stamp, hparsed, hnodup, hstamp, hdataset, ht⟩ := apiUpload_eq_ok h
  obtain ⟨header, records, hrecords, hcolumns⟩ := Upload.parse?_eq_some hparsed
  have hcells : ∀ j, Upload.ReadsFrom
      (Upload.column (records.map (Upload.textAt header records · j)))
      (records.map (Upload.textAt header records · j)) := fun j => Upload.readsFrom_column _
  choose read hread using hcells
  refine ⟨header, records, read, hrecords, fun j => ?_, fun p startMonth hp => ?_⟩
  · rw [hread, List.map_map]
    rfl
  have hget : t.registry.datasets.get? summary.dataset.id = some summary.dataset := by
    simp [ht, hdataset, register, Registry.register]
  have hsheet : t.registry.sheets.get? summary.dataset.id = some sheet := by
    simp [ht, hdataset, register, Registry.register]
  have hload := Registry.loadRows_singleton hget hp hsheet startMonth t.now
  rw [State.loadRows, hload, ← Upload.names_eq hcolumns]
  refine ⟨fun hreserved => ?_, fun hreserved => ?_⟩
  · rw [Registry.loadedSheet_of_reserved hreserved]
    rfl
  · obtain ⟨loaded, hloaded⟩ := Registry.exists_loadedSheet summary.dataset.id summary.dataset
      startMonth hreserved hnodup (exists_calendarYear hstamp)
    have has := (Registry.loadedAs_of_loadedSheet hloaded).2
    refine ⟨loaded.records, ?_, Upload.loadsRecords hrecords hcolumns hread has
      (has.nodup_names hreserved hnodup)⟩
    rw [ht, register, hloaded]
    rfl

/-- A user who is no administrator. -/
def user : Principal := ⟨"ann", none, "BASIC_USER"⟩

/-- Sales of two days. -/
def dailyFile : UploadRequest := salesFile "day,amount\n1,2\n3,4\n" none

/-- Sales whose datasets are told by the file itself. -/
def labelledFile : UploadRequest := salesFile "dataset_id,amount\nx,2\n" none

theorem loadRows_upload_daily :
    ∃ rows,
      ((epochServer.apiUpload rootHeaders dailyFile).1.loadRows user ["sales"] 1).outcome =
        .ok rows ∧
      rows.map (·.get? Registry.datasetColumn) = [some (.text "sales"), some (.text "sales")] := by
  have hsummary : ((epochServer.apiUpload rootHeaders dailyFile).2.map fun summary =>
      (summary.dataset.id, summary.dataset.permits user .view)) = .ok ("sales", true) := by
    decide +kernel
  have hcsv : Csv.records? dailyFile.csv = some [["day", "amount"], ["1", "2"], ["3", "4"]] := by
    decide +kernel
  have hnames : Registry.datasetColumn ∉ Upload.namesOf ["day", "amount"] := by decide +kernel
  obtain ⟨summary, hok, hfields⟩ := Response.map_eq_ok.1 hsummary
  obtain ⟨hid, hpermits⟩ := Prod.mk.inj hfields
  obtain ⟨header, records, read, hrecords, -, hload⟩ := loadRows_upload (Prod.ext rfl hok)
  obtain ⟨rfl, rfl⟩ := List.cons.inj (Option.some.inj (hcsv.symm.trans hrecords))
  obtain ⟨rows, hrows, hall⟩ := (hload user 1 hpermits).2 hnames
  rw [hid] at hrows hall
  refine ⟨rows, hrows, ?_⟩
  obtain ⟨first, rest, hfirst, hrest, rfl⟩ := List.forall₂_cons_right_iff.1 hall
  obtain ⟨second, others, hsecond, hothers, rfl⟩ := List.forall₂_cons_right_iff.1 hrest
  obtain rfl := List.forall₂_nil_right_iff.1 hothers
  rw [List.map_cons, List.map_singleton, hfirst.dataset, hsecond.dataset]

/-- An upload with a column of the reserved name is accepted and cannot be loaded. -/
theorem exists_upload_unloadable :
    ¬ ∀ (s t : State) (headers : Headers) (upload : UploadRequest) (summary : DatasetSummary)
      (p : Principal) (startMonth : Int), s.Reachable →
      s.apiUpload headers upload = (t, .ok summary) → summary.dataset.permits p .view = true →
      ∃ rows, (t.loadRows p [summary.dataset.id] startMonth).outcome = .ok rows := by
  intro h
  have hsummary : ((epochServer.apiUpload rootHeaders labelledFile).2.map fun summary =>
      (summary.dataset.id, summary.dataset.permits user .view)) = .ok ("sales", true) := by
    decide +kernel
  have hload : ((epochServer.apiUpload rootHeaders labelledFile).1.loadRows user
      ["sales"] 1).outcome.isOk = false := by decide +kernel
  obtain ⟨summary, hok, hfields⟩ := Response.map_eq_ok.1 hsummary
  obtain ⟨hid, hpermits⟩ := Prod.mk.inj hfields
  obtain ⟨rows, hrows⟩ :=
    h epochServer _ _ _ summary user 1 ⟨_, [], rfl⟩ (Prod.ext rfl hok) hpermits
  rw [hid] at hrows
  rw [hrows] at hload
  cases hload

end State

end Reporting
