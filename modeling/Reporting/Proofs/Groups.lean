import Reporting.Proofs.Aggregation
import Reporting.Proofs.Outcome
import Reporting.Proofs.Partition

/-!
# Rows of groups

When the dimensions of all rows can be written, grouping makes one row for each fiber of the group
key (`groupRows_eq`); keys without separators inside their texts tell dimension texts apart
(`Grouping.texts_of_plainKey`). A group row has the normalized dimension cells of its first member
and under each label the value of a measure that owns it (`Grouping.cell_addMeasures`).
-/

namespace Reporting

/-! ## Cells -/

theorem Keyed.cell_put (row : Row) (field other : String) (value : Value) :
    (row.put field value).cell other = if field = other then value else row.cell other := by
  rw [cell, cell, get?_put]
  split <;> rfl

namespace Value

theorem normalized_normalized (value : Value) : value.normalized.normalized = value.normalized := by
  cases value <;> rfl

theorem HasScalar.of_isWritable {value : Value} (h : value.IsWritable) : value.HasScalar := by
  cases value with
  | null | bool | number | text => trivial
  | list | object => exact h

theorem normalize_eq_ok {value out : Value} :
    value.normalize = .ok out ↔ value.HasScalar ∧ value.normalized = out := by
  by_cases h : value.HasScalar <;> simp [normalize_eq, h]

theorem isWritable_normalized {value : Value} (h : value.IsWritable) :
    value.normalized.IsWritable := by
  cases value with
  | null | bool | number | text => exact h
  | list | object => trivial

theorem plainText_normalized (value : Value) : value.normalized.plainText = value.plainText := by
  cases value <;> rfl

theorem toText_eq_ok {value : Value} {s : String} :
    value.toText = .ok s ↔ value.IsWritable ∧ s = value.plainText := by
  rw [toText]
  split
  · next h => exact ⟨fun e => ⟨h, (Except.ok.inj e).symm⟩, fun e => congrArg _ e.2.symm⟩
  · next h => exact iff_of_false (by simp) fun e => h e.1

/-- The text of a cell of a result is that of the value. -/
theorem HasScalar.toText_normalized {value : Value} (h : value.HasScalar) :
    value.normalized.toText = value.toText := by
  cases value with
  | null | bool | number | text => rfl
  | list | object => exact (if_pos h).symm

theorem toText_normalize (value : Value) :
    (do (← value.normalize).toText : Outcome String) = value.toText := by
  rw [normalize_eq]
  split
  · next h => exact h.toText_normalized
  · next h => exact (if_neg (mt HasScalar.of_isWritable h)).symm

/-- The integer of an integer cell. -/
def written : Value → Int
  | .number (.int n) => n
  | _ => 0

@[simp] theorem written_int (n : Int) : (int n).written = n := rfl

/-- The number of an integer cell, if it has one, is its integer. -/
theorem eq_of_toNumber_int {n : Int} {x : Number} (h : (int n).toNumber = .ok x) : x = .int n := by
  obtain ⟨_, _, h⟩ := Outcome.bind_eq_ok.1 h
  exact (Except.ok.inj h).symm

end Value

namespace Grouping

/-! ## Keys -/

/-- The dimension texts of a row, as long as they can be written. -/
def plainTexts (dimensions : List String) (row : Row) : List (List Char) :=
  dimensions.map fun field => (row.cell field).normalized.plainText.toList

/-- The key of a row's group, as long as it can be written. -/
def plainKey (dimensions : List String) (row : Row) : String :=
  String.ofList (Text.joined [separator] (plainTexts dimensions row))

/-- Whether the dimensions of a row can be written. -/
def IsKeyable (dimensions : List String) (row : Row) : Prop :=
  ∀ field ∈ dimensions, (row.cell field).IsWritable

/-- Whether the dimension texts of a row are free of separators. -/
def IsParted (dimensions : List String) (row : Row) : Prop :=
  ∀ field ∈ dimensions, separator ∉ (row.cell field).normalized.plainText.toList

instance (dimensions : List String) (row : Row) : Decidable (IsParted dimensions row) := by
  unfold IsParted
  infer_instance

variable {dimensions : List String} {row : Row}

theorem dimensionText_eq (row : Row) (field : String) :
    dimensionText row field = (row.cell field).toText :=
  (row.cell field).toText_normalize

theorem dimensionText_eq_ok {field s : String} :
    dimensionText row field = .ok s ↔
      (row.cell field).IsWritable ∧ s = (row.cell field).normalized.plainText := by
  rw [dimensionText_eq, Value.toText_eq_ok, Value.plainText_normalized]

theorem key_of_isKeyable (h : IsKeyable dimensions row) :
    key dimensions row = .ok (plainKey dimensions row) := by
  have htexts : dimensions.mapM (dimensionText row) =
      .ok (dimensions.map fun field => (row.cell field).normalized.plainText) :=
    Outcome.mapM_eq_ok_map fun field hfield => dimensionText_eq_ok.2 ⟨h field hfield, rfl⟩
  rw [key, htexts, Outcome.ok_bind, List.map_map]
  rfl

theorem isKeyable_of_key {k : String} (h : key dimensions row = .ok k) :
    IsKeyable dimensions row := by
  intro field hfield
  obtain ⟨texts, htexts, -⟩ := Outcome.bind_eq_ok.1 h
  obtain ⟨text, htext⟩ := Outcome.exists_of_mem_mapM htexts hfield
  exact (dimensionText_eq_ok.1 htext).1

/-- **Keys tell dimension texts apart**, as long as these are free of separators. -/
theorem texts_of_plainKey {other : Row} (hrow : IsParted dimensions row)
    (hother : IsParted dimensions other)
    (h : plainKey dimensions row = plainKey dimensions other) :
    plainTexts dimensions row = plainTexts dimensions other := by
  by_cases hne : dimensions = []
  · rw [hne]
    rfl
  · have hcut : ∀ r, IsParted dimensions r →
        Text.cut (· = separator) (plainKey dimensions r).toList = plainTexts dimensions r := by
      intro r hr
      rw [plainKey, String.toList_ofList]
      refine Text.cut_joined (by simp) (by simpa [plainTexts] using hne) fun piece hpiece c hc => ?_
      obtain ⟨field, hfield, rfl⟩ := List.mem_map.1 hpiece
      exact decide_eq_false fun e => hr field hfield (e ▸ hc)
    rw [← hcut row hrow, h, hcut other hother]

/-- Fewer dimensions are no finer. -/
theorem plainKey_congr {fewer : List String} {other : Row} (hsub : fewer ⊆ dimensions)
    (h : plainTexts dimensions row = plainTexts dimensions other) :
    plainKey fewer row = plainKey fewer other := by
  have hcells := List.map_inj_left.1 h
  exact congrArg (fun texts => String.ofList (Text.joined [separator] texts))
    (List.map_congr_left fun field hfield => hcells field (hsub hfield))

/-! ## Dimension cells -/

theorem cell_foldl_put (value : String → Value) (start : Row) (field : String) :
    (dimensions.foldl (fun r f => r.put f (value f)) start).cell field =
      if field ∈ dimensions then value field else start.cell field := by
  induction dimensions generalizing start with
  | nil => rfl
  | cons f rest ih =>
    rw [List.foldl_cons, ih, Keyed.cell_put]
    by_cases hrest : field ∈ rest
    · simp [hrest]
    · by_cases hf : f = field
      · simp [hf]
      · simp [hrest, hf, Ne.symm hf]

/-- The dimension cells of a row, as long as they can be written. -/
def plainCells (dimensions : List String) (first : Row) : Row :=
  dimensions.foldl (fun row field => row.put field (first.cell field).normalized) .empty

theorem dimensionCells_eq_ok {first cells : Row} :
    dimensionCells dimensions first = .ok cells ↔
      (∀ field ∈ dimensions, (first.cell field).HasScalar) ∧
        plainCells dimensions first = cells := by
  rw [dimensionCells, plainCells]
  generalize Keyed.empty = start
  induction dimensions generalizing start with
  | nil => simp [Outcome.pure_eq_ok]
  | cons field rest ih =>
    simp only [List.foldlM_cons, bind_assoc, Outcome.bind_eq_ok, Value.normalize_eq_ok, pure_bind,
      List.foldl_cons, List.forall_mem_cons, ih]
    simp [and_assoc]

/-- A group row has the normalized dimension cells of its first member. -/
theorem cell_plainCells (first : Row) {field : String} (hfield : field ∈ dimensions) :
    (plainCells dimensions first).cell field = (first.cell field).normalized := by
  rw [plainCells, cell_foldl_put (fun f => (first.cell f).normalized), if_pos hfield]

theorem plainCells_congr {first other : Row}
    (h : ∀ field ∈ dimensions, (first.cell field).normalized = (other.cell field).normalized) :
    plainCells dimensions first = plainCells dimensions other :=
  List.foldl_ext _ _ _ fun r field hfield => by rw [h field hfield]

/-- The row of a group is made of the dimension cells of its first member and its measures. -/
theorem groupRow_eq_ok {view : View} {members : List Row} {out : Row} :
    groupRow view members = .ok out ↔
      (∀ field ∈ view.dimensions, ((members.headD .empty).cell field).HasScalar) ∧
        addMeasures members view.measures
          (plainCells view.dimensions (members.headD .empty)) = .ok out := by
  simp only [groupRow, Outcome.bind_eq_ok, dimensionCells_eq_ok]
  simp

/-! ## Measures -/

section Measures

variable {members : List Row} {measures : List Measure} {start out : Row}

theorem addMeasures_cons_eq_ok {measure : Measure} :
    addMeasures members (measure :: measures) start = .ok out ↔
      ∃ value, measureValue members measure = .ok value ∧
        addMeasures members measures (start.put measure.label (.number value)) = .ok out := by
  rw [addMeasures, List.foldlM_cons, bind_assoc, Outcome.bind_eq_ok]
  rfl

/-- Measures leave a cell that is not under their labels. -/
theorem cell_addMeasures_of_not_mem {field : String} (hfield : field ∉ measures.map (·.label))
    (h : addMeasures members measures start = .ok out) : out.cell field = start.cell field := by
  induction measures generalizing start with
  | nil => rw [Outcome.pure_eq_ok.1 h]
  | cons measure rest ih =>
    rw [List.map_cons, List.mem_cons, not_or] at hfield
    obtain ⟨value, -, h⟩ := addMeasures_cons_eq_ok.1 h
    rw [ih hfield.2 h, Keyed.cell_put, if_neg (Ne.symm hfield.1)]

/-- A label holds the value of its last measure. -/
theorem cell_addMeasures_last {before after : List Measure} {measure : Measure}
    (hlast : measure.label ∉ after.map (·.label))
    (h : addMeasures members (before ++ measure :: after) start = .ok out) :
    ∃ value, measureValue members measure = .ok value ∧ out.cell measure.label = .number value := by
  rw [addMeasures, List.foldlM_append] at h
  obtain ⟨current, -, h⟩ := Outcome.bind_eq_ok.1 h
  obtain ⟨value, hvalue, h⟩ := addMeasures_cons_eq_ok.1 h
  refine ⟨value, hvalue, ?_⟩
  rw [cell_addMeasures_of_not_mem hlast h, Keyed.cell_put, if_pos rfl]

/-- A label that one measure owns holds its value. -/
theorem cell_addMeasures {measure : Measure}
    (hunique : measures.filter (·.label = measure.label) = [measure])
    (h : addMeasures members measures start = .ok out) :
    ∃ value, measureValue members measure = .ok value ∧ out.cell measure.label = .number value := by
  obtain ⟨before, after, rfl, -, -, hafter⟩ := List.filter_eq_cons_iff.1 hunique
  refine cell_addMeasures_last (fun hmem => ?_) h
  obtain ⟨other, hother, hlabel⟩ := List.mem_map.1 hmem
  exact List.filter_eq_nil_iff.1 hafter other hother (decide_eq_true hlabel)

/-- Measures of other members that have the same labels and values write the same row. -/
theorem addMeasures_mono {others : List Row} {f : Measure → Measure}
    (hlabel : ∀ measure, (f measure).label = measure.label)
    (hvalue : ∀ measure ∈ measures, ∀ value, measureValue members (f measure) = .ok value →
      measureValue others measure = .ok value)
    (h : addMeasures members (measures.map f) start = .ok out) :
    addMeasures others measures start = .ok out := by
  induction measures generalizing start with
  | nil => exact h
  | cons measure rest ih =>
    rw [List.map_cons] at h
    obtain ⟨value, hfirst, h⟩ := addMeasures_cons_eq_ok.1 h
    rw [hlabel] at h
    exact addMeasures_cons_eq_ok.2 ⟨value, hvalue measure (by simp) value hfirst,
      ih (fun m hm => hvalue m (by simp [hm])) h⟩

theorem filter_label_of_nodup (hnodup : (measures.map (·.label)).Nodup) {measure : Measure}
    (hmem : measure ∈ measures) : measures.filter (·.label = measure.label) = [measure] := by
  induction measures with
  | nil => simp at hmem
  | cons first rest ih =>
    rw [List.map_cons, List.nodup_cons] at hnodup
    rcases List.mem_cons.1 hmem with rfl | hmem
    · have hrest : rest.filter (·.label = measure.label) = [] :=
        List.filter_eq_nil_iff.2 fun other hother hlabel =>
          hnodup.1 (List.mem_map.2 ⟨other, hother, of_decide_eq_true hlabel⟩)
      rw [List.filter_cons_of_pos (by simp), hrest]
    · have hne : first.label ≠ measure.label := fun e =>
        hnodup.1 (e ▸ List.mem_map_of_mem hmem)
      rw [List.filter_cons_of_neg (by simpa using hne), ih hnodup.2 hmem]

end Measures

/-! ## Values of measures -/

section Values

variable {members : List Row} {measure : Measure}

/-- A measure has a value only if the field of every member has a number. -/
theorem exists_toNumber_of_measureValue {value : Number}
    (h : measureValue members measure = .ok value) {row : Row} (hrow : row ∈ members) :
    ∃ x, (row.cell measure.field).toNumber = .ok x := by
  obtain ⟨numbers, hnumbers, -⟩ := Outcome.bind_eq_ok.1 h
  exact Outcome.exists_of_mem_mapM hnumbers hrow

/-- A measure over integers is exact. -/
theorem measureValue_ints {amount : Row → Int}
    (ha : (Aggregation.ofName measure.aggregation).RollsUp)
    (h : ∀ row ∈ members, (row.cell measure.field).toNumber = .ok (.int (amount row))) :
    measureValue members measure =
      .ok (.int ((Aggregation.ofName measure.aggregation).ofInts (members.map amount))) := by
  have hnumbers : members.mapM (fun row => (row.cell measure.field).toNumber) =
      .ok ((members.map amount).map .int) := by
    rw [List.map_map]
    exact Outcome.mapM_eq_ok_map h
  rw [measureValue, hnumbers, Outcome.ok_bind, Aggregation.apply_ints ha]
  rfl

/-- The count of members reads no more than that their fields have numbers. -/
theorem eq_of_measureValue_count {value : Number}
    (hcount : Aggregation.ofName measure.aggregation = .count)
    (h : measureValue members measure = .ok value) : value = .int members.length := by
  obtain ⟨numbers, hnumbers, h⟩ := Outcome.bind_eq_ok.1 h
  rw [hcount] at h
  rw [← Outcome.length_of_mapM hnumbers]
  exact (Outcome.pure_eq_ok.1 h).symm

end Values

/-! ## Groups -/

/-- The groups of values beside their keys. -/
theorem groups_zip {α β : Type} (key : α → String) (value : α → β) (items : List α) :
    groups ((items.map key).zip (items.map value)) =
      (firsts (items.map key)).map fun k => (fiber key items k).map value := by
  have hkeys : (items.map fun a => (key a, value a)).map Prod.fst = items.map key := by
    rw [List.map_map]
    rfl
  rw [List.zip_map', groups, hkeys]
  refine List.map_congr_left fun k _ => ?_
  rw [List.filter_map, List.map_map]
  rfl

end Grouping

variable {view : View} {rows out : List Row}

/-- **Grouping makes one row for each fiber of the group key.** -/
theorem groupRows_eq (h : ∀ row ∈ rows, Grouping.IsKeyable view.dimensions row) :
    groupRows view rows =
      (firsts (rows.map (Grouping.plainKey view.dimensions))).mapM fun k =>
        Grouping.groupRow view (fiber (Grouping.plainKey view.dimensions) rows k) := by
  have hkeys : rows.mapM (Grouping.key view.dimensions) =
      .ok (rows.map (Grouping.plainKey view.dimensions)) :=
    Outcome.mapM_eq_ok_map fun row hrow => Grouping.key_of_isKeyable (h row hrow)
  have hgroups := Grouping.groups_zip (Grouping.plainKey view.dimensions) id rows
  simp only [List.map_id] at hgroups
  rw [groupRows, hkeys, Outcome.ok_bind, hgroups, List.mapM_map]
  rfl

/-- Grouping rows that are named by other items, whose parts are their keys. -/
theorem groupRows_map {α : Type} {items : List α} {rowOf : α → Row} {part : α → String}
    (h : ∀ row ∈ items.map rowOf, Grouping.IsKeyable view.dimensions row)
    (hpart : ∀ a ∈ items, (Grouping.plainKey view.dimensions ∘ rowOf) a = part a) :
    groupRows view (items.map rowOf) =
      (firsts (items.map part)).mapM fun k =>
        Grouping.groupRow view ((fiber part items k).map rowOf) := by
  rw [groupRows_eq h, List.map_map, List.map_congr_left hpart]
  refine Outcome.mapM_congr fun k _ => ?_
  rw [fiber_map, fiber_congr hpart]

theorem isKeyable_of_groupRows (h : groupRows view rows = .ok out) :
    ∀ row ∈ rows, Grouping.IsKeyable view.dimensions row := by
  intro row hrow
  obtain ⟨keys, hkeys, -⟩ := Outcome.bind_eq_ok.1 h
  obtain ⟨k, hk⟩ := Outcome.exists_of_mem_mapM hkeys hrow
  exact Grouping.isKeyable_of_key hk

/-! ## Sales -/

/-- A sale of a region in a month. -/
def sale (region month : String) (amount : Int) : Row :=
  .ofList [("region", .text region), ("month", .text month), ("amount", .int amount)]

/-- The sales of two regions. -/
def sales : List Row :=
  [sale "north" "May" 3, sale "south" "May" 5, sale "north" "June" (-4), sale "north" "May" 7]

/-- The sales of each region by month: their total, their number and the least of them. -/
def monthlySales : View where
  id := "monthly"
  name := "Monthly"
  rowFields := ["region"]
  columnFields := ["month"]
  measures := [⟨"amount", "total", "sum", none⟩, ⟨"amount", "number", "count", none⟩,
    ⟨"amount", "least", "min", none⟩]
  filters := []
  sort := []
  pageSize := 10
  showTotals := true
  pivotMode := false
  visuals := []

/-- The sales of each region by month, as rows. -/
def monthlyRows : List Row := [
  .ofList [("region", .text "north"), ("month", .text "May"), ("total", .int 10),
    ("number", .int 2), ("least", .int 3)],
  .ofList [("region", .text "south"), ("month", .text "May"), ("total", .int 5),
    ("number", .int 1), ("least", .int 5)],
  .ofList [("region", .text "north"), ("month", .text "June"), ("total", .int (-4)),
    ("number", .int 1), ("least", .int (-4))]]

example : groupRows monthlySales sales = .ok monthlyRows := by decide +kernel

end Reporting
