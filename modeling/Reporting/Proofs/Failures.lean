import Reporting.Dataset
import Reporting.Proofs.Outcome
import Reporting.Proofs.Sorting
import Reporting.Run

/-!
# Failures of loads and runs

Loading rows and taking them through a view can fail, but not with a failure that speaks to a user:
those come from what is settled before rows are loaded. An outcome is silent if it does not fail in
such a way (`Outcome.IsSilent`). Sequences and traversals of silent steps are silent, and so every
step of a load (`Registry.isSilent_loadRows`) and of a run (`isSilent_runView`) is.
-/

namespace Reporting

/-! ## Silent steps -/

/-- Whether an outcome is a result, or a failure without a wording. -/
def Outcome.IsSilent {α : Type} (x : Outcome α) : Prop :=
  ∀ failure, x = .error failure → failure.message? = none

namespace Outcome

variable {α β : Type}

@[simp] theorem isSilent_ok (a : α) : IsSilent (.ok a) := nofun

@[simp] theorem isSilent_pure (a : α) : IsSilent (pure a) := nofun

@[simp] theorem isSilent_error {failure : Failure} :
    IsSilent (.error failure : Outcome α) ↔ failure.message? = none :=
  ⟨fun h => h failure rfl, fun h _ e => Except.error.inj e ▸ h⟩

@[simp] theorem isSilent_throw {failure : Failure} :
    IsSilent (throw failure : Outcome α) ↔ failure.message? = none :=
  isSilent_error

@[simp] theorem isSilent_ofOption {failure : Failure} {o : Option α} :
    IsSilent (ofOption failure o) ↔ (o = none → failure.message? = none) := by
  cases o <;> simp [ofOption]

@[simp] theorem isSilent_map {x : Outcome α} {f : α → β} : (f <$> x).IsSilent ↔ x.IsSilent := by
  cases x with
  | error failure => exact isSilent_error.trans isSilent_error.symm
  | ok a => exact iff_of_true (isSilent_ok (f a)) (isSilent_ok a)

@[simp] theorem isSilent_bind {x : Outcome α} {f : α → Outcome β} :
    (x >>= f).IsSilent ↔ x.IsSilent ∧ ∀ a, x = .ok a → (f a).IsSilent := by
  cases x with
  | error failure => simp
  | ok a => simp

/-- A step followed by one that is silent whatever it is given. -/
theorem IsSilent.bind {x : Outcome α} {f : α → Outcome β} (hx : x.IsSilent)
    (hf : ∀ a, (f a).IsSilent) : (x >>= f).IsSilent :=
  isSilent_bind.2 ⟨hx, fun a _ => hf a⟩

@[simp] theorem isSilent_ite {c : Prop} [Decidable c] {x y : Outcome α} :
    (if c then x else y).IsSilent ↔ (c → x.IsSilent) ∧ (¬ c → y.IsSilent) := by
  split <;> simp [*]

@[simp] theorem isSilent_mapM {f : α → Outcome β} (h : ∀ a, (f a).IsSilent) (as : List α) :
    (as.mapM f).IsSilent := by
  induction as with
  | nil => exact isSilent_pure []
  | cons a rest ih =>
    rw [List.mapM_cons]
    simp [h, ih]

@[simp] theorem isSilent_foldlM {f : β → α → Outcome β} (h : ∀ b a, (f b a).IsSilent) (start : β)
    (as : List α) : (as.foldlM f start).IsSilent := by
  induction as generalizing start with
  | nil => exact isSilent_pure start
  | cons a rest ih =>
    rw [List.foldlM_cons]
    exact (h start a).bind ih

end Outcome

open Outcome

/-! ## Numbers and cells -/

namespace Number

@[simp] theorem isSilent_intToDouble (n : Int) : (intToDouble n).IsSilent :=
  isSilent_ofOption.2 fun _ => rfl

@[simp] theorem isSilent_toDouble (n : Number) : n.toDouble.IsSilent := by
  cases n <;> simp [toDouble]

@[simp] theorem isSilent_lift (onInts : Int → Int → Int) (onDoubles : Double → Double → Double)
    (m n : Number) : (lift onInts onDoubles m n).IsSilent := by
  cases m <;> cases n <;> simp [lift]

@[simp] theorem isSilent_add (m n : Number) : (m.add n).IsSilent := isSilent_lift _ _ m n

@[simp] theorem isSilent_sub (m n : Number) : (m.sub n).IsSilent := isSilent_lift _ _ m n

@[simp] theorem isSilent_mul (m n : Number) : (m.mul n).IsSilent := isSilent_lift _ _ m n

@[simp] theorem isSilent_div (m n : Number) : (m.div n).IsSilent := by
  cases m <;> cases n <;> simp [div, Failure.message?]

@[simp] theorem isSilent_sum (numbers : List Number) : (sum numbers).IsSilent :=
  isSilent_foldlM isSilent_add _ numbers

@[simp] theorem isSilent_grouped (places : Nat) (n : Number) : (n.grouped places).IsSilent := by
  simp [grouped, Failure.message?]

@[simp] theorem isSilent_withPlaces (places : Nat) (n : Number) :
    (n.withPlaces places).IsSilent := by
  simp [withPlaces]

end Number

namespace Value

@[simp] theorem isSilent_toNumber (value : Value) : value.toNumber.IsSilent := by
  unfold toNumber
  split <;> simp

@[simp] theorem isSilent_toText (value : Value) : value.toText.IsSilent := by
  simp [toText, Failure.message?]

@[simp] theorem isSilent_printed (value : Value) : value.printed.IsSilent := by
  simp [printed, Failure.message?]

@[simp] theorem isSilent_normalize (value : Value) : value.normalize.IsSilent := by
  simp [normalize_eq, Failure.message?]

@[simp] theorem isSilent_toComparable (value : Value) : value.toComparable.IsSilent := by
  simp [toComparable_eq, Failure.message?]

@[simp] theorem isSilent_lowerText (value : Value) : value.lowerText.IsSilent := by
  simp [lowerText]

@[simp] theorem isSilent_toItems (value : Value) : value.toItems.IsSilent := by
  unfold toItems
  split <;> simp

@[simp] theorem Comparable.isSilent_toText (value : Comparable) : value.toText.IsSilent := by
  cases value <;> simp [Comparable.toText]

end Value

/-! ## Filters -/

namespace Filter

@[simp] theorem isSilent_compareNumbers (holds : Number → Number → Bool) (a b : Value) :
    (compareNumbers holds a b).IsSilent := by
  simp [compareNumbers]

@[simp] theorem isSilent_isBetween (value low high : Value) :
    (isBetween value low high).IsSilent := by
  simp [isBetween]

@[simp] theorem isSilent_holds (cell operand : Value) (operator : Operator) :
    (operator.holds cell operand).IsSilent := by
  cases operator with
  | between =>
    simp only [Operator.holds]
    split <;> simp
  | _ => simp [Operator.holds, isEqual, containsText, isOneOf]

@[simp] theorem isSilent_accepts (f : Filter) (row : Row) : (f.accepts row).IsSilent := by
  unfold accepts
  split <;> simp

@[simp] theorem isSilent_acceptsAll (filters : List Filter) (row : Row) :
    (acceptsAll filters row).IsSilent := by
  induction filters with
  | nil => exact isSilent_ok true
  | cons f rest ih => simp [acceptsAll, ih]

@[simp] theorem isSilent_keep (filters : List Filter) (rows : List Row) :
    (keep filters rows).IsSilent := by
  induction rows with
  | nil => exact isSilent_ok []
  | cons row rest ih => simp [keep, ih]

end Filter

/-! ## Tables -/

@[simp] theorem Aggregation.isSilent_apply (numbers : List Number) (aggregation : Aggregation) :
    (aggregation.apply numbers).IsSilent := by
  cases aggregation with
  | minimum | maximum => cases numbers <;> simp [apply]
  | _ => simp [apply]

@[simp] theorem Grouping.isSilent_groupRow (view : View) (members : List Row) :
    (groupRow view members).IsSilent := by
  simp [groupRow, dimensionCells, addMeasures, measureValue]

@[simp] theorem Grouping.isSilent_key (dimensions : List String) (row : Row) :
    (key dimensions row).IsSilent := by
  have htext : ∀ field, (dimensionText row field).IsSilent := by simp [dimensionText]
  simp [key, htext]

@[simp] theorem isSilent_groupRows (view : View) (rows : List Row) :
    (groupRows view rows).IsSilent := by
  simp [groupRows]

@[simp] theorem isSilent_columnTotals (rows : List Row) (columns : List String) :
    (columnTotals rows columns).IsSilent := by
  simp [columnTotals, columnTotal]

@[simp] theorem Expression.isSilent_evaluate (context : Keyed Number) (expression : String) :
    (evaluate context expression).IsSilent := by
  have hcombine : ∀ (total operand : Number) (operator : Operator),
      (operator.combine total operand).IsSilent := by
    intro total operand operator
    cases operator <;> simp [Operator.combine]
  have hread : ∀ (r : Reduction) (word : String), (r.read context word).IsSilent := by
    intro r word
    unfold Reduction.read
    split <;> simp [hcombine]
  simp [evaluate, hread]

@[simp] theorem Series.isSilent_ofField (field : String) (rows : List Row) :
    (ofField field rows).IsSilent := by
  simp [ofField]

namespace Calculation

@[simp] theorem isSilent_varianceOf (percentage : Bool) (minuend subtrahend : Number) :
    (varianceOf percentage minuend subtrahend).IsSilent := by
  simp [varianceOf]

@[simp] theorem isSilent_windowSize (window : Value) : (windowSize window).IsSilent := by
  unfold windowSize
  split
  · simp
  · refine (Value.isSilent_toNumber window).bind fun n => ?_
    cases n <;> simp

@[simp] theorem isSilent_values? (rule : Rule) (rows : List Row) :
    (values? rule rows).IsSilent := by
  cases rule <;> simp [values?, context, rollingValues, Failure.message?]

@[simp] theorem isSilent_apply (c : Calculation) (rows : List Row) : (c.apply rows).IsSilent := by
  refine (isSilent_values? c.rule rows).bind fun values => ?_
  cases values <;> simp

@[simp] theorem isSilent_applyAll (calculations : List Calculation) (rows : List Row) :
    (applyAll calculations rows).IsSilent := by
  simp [applyAll]

end Calculation

namespace SortRule

open Value (Comparable)

@[simp] theorem isSilent_compareValues (a b : Comparable) : (compareValues a b).IsSilent := by
  have hcollate : ∀ s t, (collate s t).IsSilent := by simp [collate, Failure.message?]
  unfold compareValues
  split
  · simp
  · split <;> simp [hcollate]

theorem isSilent_compareKeys (directions : List Direction) {as bs : Key}
    (has : ∀ a ∈ as, a.IsSilent) (hbs : ∀ b ∈ bs, b.IsSilent) :
    (compareKeys directions as bs).IsSilent := by
  induction directions generalizing as bs with
  | nil => simp [compareKeys]
  | cons direction directions ih =>
    cases as with
    | nil => simp [compareKeys]
    | cons a as =>
      cases bs with
      | nil => simp [compareKeys]
      | cons b bs =>
        obtain ⟨ha, has⟩ := List.forall_mem_cons.1 has
        obtain ⟨hb, hbs⟩ := List.forall_mem_cons.1 hbs
        refine ha.bind fun left => hb.bind fun right => ?_
        refine (isSilent_compareValues left right).bind fun order => ?_
        cases order with
        | eq => exact ih has hbs
        | lt | gt => exact isSilent_ok _

/-- What stops a sort is a failed comparison. -/
theorem message?_of_firstFailure? {directions : List Direction} {rules : List SortRule}
    {rows : List Row} {failure : Failure}
    (h : firstFailure? directions (rows.map (key rules)) = some failure) :
    failure.message? = none := by
  have hkeys : ∀ k ∈ rows.map (key rules), ∀ value ∈ k, value.IsSilent := by
    simp [key]
  obtain ⟨a, ha, b, hb, hfails⟩ := exists_of_firstFailure? h
  exact isSilent_compareKeys directions (hkeys a ha) (hkeys b hb) failure hfails

@[simp] theorem isSilent_sortRows (rules : List SortRule) (rows : List Row) :
    (sortRows rules rows).IsSilent := by
  rw [sortRows, keys_keyed]
  split
  · next failure hfailure => exact isSilent_error.2 (message?_of_firstFailure? hfailure)
  · exact isSilent_ok _

end SortRule

@[simp] theorem Table.isSilent_build (view : View) (calculations : List Calculation)
    (page pageSize : Int) (rows : List Row) :
    (build view calculations page pageSize rows).IsSilent := by
  simp [build, allRows]

/-! ## Charts -/

@[simp] theorem Slices.isSilent_collapse (categoryField valueField : String) (points : List Row) :
    (collapse categoryField valueField points).IsSilent := by
  have hcategory : ∀ value, (category value).IsSilent := by
    intro value
    unfold category
    split <;> simp
  have hsum : ∀ column together values, (sumIn column together values).IsSilent := by
    intro column together values
    cases column <;> simp [sumIn]
  simp [collapse, hcategory, hsum]

@[simp] theorem Chart.isSilent_build (rows : List Row) (visual : Visual) :
    (build rows visual).IsSilent := by
  have hnumber : ∀ row field point, (addNumber row field point).IsSilent := by
    intro row field point
    unfold addNumber
    split <;> simp
  have hpoint : ∀ row, (point visual row).IsSilent := by simp [point, hnumber]
  simp [build, hpoint]

@[simp] theorem Chart.isSilent_buildAll (visuals : List Visual) (rows : List Row) :
    (buildAll visuals rows).IsSilent :=
  isSilent_mapM (isSilent_build rows) visuals

/-! ## Insights -/

namespace Statistics

@[simp] theorem isSilent_mean (numbers : List Number) : (mean numbers).IsSilent := by
  simp [mean]

@[simp] theorem isSilent_deviation (numbers : List Number) : (deviation numbers).IsSilent := by
  simp [deviation, center]

@[simp] theorem isSilent_forecast (numbers : List Number) : (forecast numbers).IsSilent := by
  simp [forecast]

end Statistics

namespace Insight

@[simp] theorem isSilent_label (fallback : String) (column : Option String) (row : Row) :
    (label fallback column row).IsSilent := by
  unfold label
  split
  · simp
  · split <;> simp

@[simp] theorem isSilent_metricNumbers (metric : String) (rows : List Row) :
    (metricNumbers metric rows).IsSilent := by
  simp [metricNumbers]

@[simp] theorem isSilent_trend? (rows : List Row) (metric : String) :
    (trend? rows metric).IsSilent := by
  refine (isSilent_metricNumbers metric rows).bind fun numbers => ?_
  split <;> simp [percentage]

@[simp] theorem isSilent_driver? (columns : List String) (rows : List Row) (metric : String) :
    (driver? columns rows metric).IsSilent := by
  unfold driver?
  split
  · exact isSilent_pure none
  · split <;> simp

@[simp] theorem isSilent_anomaly? (columns : List String) (rows : List Row) (metric : String) :
    (anomaly? columns rows metric).IsSilent := by
  simp [anomaly?, isAnomaly]

@[simp] theorem isSilent_forecast? (rows : List Row) (metric : String) :
    (forecast? rows metric).IsSilent := by
  refine (isSilent_metricNumbers metric rows).bind fun numbers => ?_
  refine (Statistics.isSilent_forecast numbers).bind fun next => ?_
  cases next <;> simp

end Insight

@[simp] theorem Insights.isSilent_build (columns : List String) (rows rawRows : List Row) :
    (build columns rows rawRows).IsSilent := by
  unfold build
  split <;> simp [ofMetric]

/-! ## Runs -/

@[simp] theorem ClockReading.isSilent_utc (now : ClockReading) : now.utc.IsSilent := by
  unfold utc
  split <;> simp [Failure.message?]

@[simp] theorem Moment.isSilent_toIso (m : Moment) : m.toIso.IsSilent := by
  unfold toIso
  split <;> simp [Failure.message?]

/-- **A run does not fail with a wording.** -/
theorem isSilent_runView (defaultPageSize : Int) {clock : Outcome Moment} (hclock : clock.IsSilent)
    (rows : List Row) (view : View) (calculations : List Calculation) (input : RunInput) :
    (runView defaultPageSize clock rows view calculations input).IsSilent := by
  simp [runView, hclock]

/-! ## Loads -/

namespace Merge

@[simp] theorem isSilent_foldRow (existing row : Row) : (foldRow existing row).IsSilent := by
  have hcell : ∀ current value, (foldCell current value).IsSilent := by
    intro current value
    unfold foldCell
    split <;> simp
  refine isSilent_foldlM (fun merged entry => ?_) existing row.entries
  split <;> simp [hcell]

@[simp] theorem isSilent_bucket (key : String) (position : Nat) (row : Row) :
    (bucket key position row).IsSilent := by
  have hname : (datasetName row).IsSilent := by simp [datasetName]
  unfold bucket
  split <;> simp [madeName, hname]

@[simp] theorem isSilent_foldFrom (key : String) (position : Nat) (buckets : Keyed Row)
    (rows : List Row) : (foldFrom key position buckets rows).IsSilent := by
  induction rows generalizing position buckets with
  | nil => exact isSilent_ok buckets
  | cons row rest ih =>
    rw [foldFrom]
    refine (isSilent_bucket key position row).bind fun name => ?_
    dsimp only
    split <;> simp [ih]

end Merge

@[simp] theorem FiscalYear.isSilent_ofColumn (startMonth : Int) (now : ClockReading)
    (column : Column) : (ofColumn startMonth now column).IsSilent := by
  simp [ofColumn, calendarYear, Failure.message?]

namespace Registry

@[simp] theorem isSilent_loadedSheet (id : String) (d : Dataset) (sheet : Sheet)
    (startMonth : Int) (now : ClockReading) :
    (loadedSheet id d sheet startMonth now).IsSilent := by
  unfold loadedSheet
  split
  · exact isSilent_throw.2 rfl
  · dsimp only
    split
    · split
      · split <;> simp [Failure.message?]
      · exact isSilent_pure _
    · exact isSilent_pure _

@[simp] theorem isSilent_datasetRows (registry : Registry) (id : String) (startMonth : Int)
    (now : ClockReading) : (registry.datasetRows id startMonth now).IsSilent := by
  unfold datasetRows
  split <;> simp

/-- **A load does not fail with a wording.** -/
theorem isSilent_loadRows (registry : Registry) (p : Principal) (ids : List String)
    (startMonth : Int) (now : ClockReading) :
    (registry.loadRows p ids startMonth now).IsSilent := by
  simp [loadRows, Merge.mergeRows]

end Registry

end Reporting
