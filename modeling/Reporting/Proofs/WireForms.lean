import Mathlib.Data.List.Forall2
import Reporting.Wire.Dataset
import Reporting.Wire.Run

/-!
# Written forms

What is written on the wire is read back as what it was. The first part says so of scalars, of
lists and of keyed tables, given that it holds of their items; the second of each model
(`Wire.view_ofView`, `Wire.runResult_ofRunResult` and so on), whatever its fields hold. A fiscal
calendar has to name a month, which every calendar that was read does. Hence an object in any of
the accepted spellings and its written form mean the same (`Wire.models_roundTrip`).
-/

namespace Reporting.Wire

/-- Whatever a reader took, it takes again from the written form. -/
def RoundTrips {α : Type} (read : Reader α) (write : α → Value) : Prop :=
  ∀ value a, read value = some a → read (write a) = some a

/-- A reader that takes every written form takes back whatever it took. -/
theorem roundTrips_of_forall {α : Type} {read : Reader α} {write : α → Value}
    (h : ∀ a, read (write a) = some a) : RoundTrips read write :=
  fun _ a _ => h a

/-! ## Scalars -/

@[simp] theorem text_text (s : String) : text (.text s) = some s := rfl

@[simp] theorem text_null : text .null = none := rfl

@[simp] theorem anything_eq (value : Value) : anything value = some value := rfl

@[simp] theorem integer_int (n : Int) : integer (.int n) = some n := rfl

@[simp] theorem integer_null : integer .null = none := rfl

@[simp] theorem truth_bool (b : Bool) : truth (.bool b) = some b := rfl

@[simp] theorem number_number (n : Number) : number (.number n) = some n := rfl

@[simp] theorem entries_object (fields : Entries) : entries (.object fields) = some fields := rfl

@[simp] theorem direction_name (d : Direction) : direction (.text d.name) = some d := by
  cases d <;> rfl

@[simp] theorem choice_formatName (f : MeasureFormat) :
    choice MeasureFormat.name MeasureFormat.all (.text f.name) = some f := by
  cases f <;> rfl

@[simp] theorem visualKind_name (kind : VisualKind) : visualKind (.text kind.name) = some kind := by
  cases kind <;> rfl

@[simp] theorem choice_insightName (kind : InsightKind) :
    choice InsightKind.name InsightKind.all (.text kind.name) = some kind := by
  cases kind <;> rfl

@[simp] theorem choice_accessName (a : Access) :
    choice Access.name Access.all (.text a.name) = some a := by
  cases a <;> rfl

/-! ## Compounds -/

section Compounds

variable {α β : Type} {read : Reader α} {write : α → Value}

/-- A value that may be missing is read back if null is nothing else on the wire. -/
theorem nullable_elim (hnull : read .null = none) (h : ∀ a, read (write a) = some a)
    (o : Option α) : nullable read (o.elim .null write) = some o := by
  cases o with
  | none => rfl
  | some a =>
    have hne : write a ≠ .null := by
      intro e
      have ha := h a
      rw [e, hnull] at ha
      cases ha
    rw [Option.elim_some, nullable, h a]
    · rfl
    · exact hne

@[simp] theorem nullable_ofText? (s : Option String) : nullable text (ofText? s) = some s :=
  nullable_elim rfl text_text s

@[simp] theorem nullable_int (n : Option Int) :
    nullable integer (n.elim .null Value.int) = some n :=
  nullable_elim rfl integer_int n

/-- A choice that may be missing is written as its name. -/
theorem nullable_ofText?_map {name : α → String} (hnull : read .null = none)
    (h : ∀ a, read (.text (name a)) = some a) (o : Option α) :
    nullable read (ofText? (o.map name)) = some o := by
  have helim : ofText? (o.map name) = o.elim .null fun a => .text (name a) := by cases o <;> rfl
  rw [helim, nullable_elim hnull h]

theorem mapM_map {γ : Type} {read : γ → Option α} {write : α → γ}
    (h : ∀ a, read (write a) = some a) (as : List α) : (as.map write).mapM read = some as := by
  induction as with
  | nil => rfl
  | cons a rest ih => rw [List.map_cons, List.mapM_cons, h a, ih]; rfl

theorem list_map (h : ∀ a, read (write a) = some a) (as : List α) :
    list read (.list (as.map write)) = some as :=
  mapM_map h as

@[simp] theorem list_ofTexts (items : List String) : list text (ofTexts items) = some items :=
  list_map text_text items

theorem table_ofTable (h : ∀ a, read (write a) = some a) (t : Keyed α) :
    table read (ofTable write t) = some t := by
  have hentries : (t.mapValues write).entries.mapM
      (fun entry => do return (entry.1, ← read entry.2)) = some t.entries :=
    mapM_map (fun entry => by simp [h]) t.entries
  rw [ofTable, table, hentries, Option.bind_eq_bind, Option.bind_some, Keyed.ofList_entries]
  rfl

end Compounds

/-! ## Models -/

@[simp] theorem filter_ofFilter (f : Filter) : filter (ofFilter f) = some f := by
  simp [filter, ofFilter, required, optional, lookup]

@[simp] theorem sortRule_ofSortRule (rule : SortRule) :
    sortRule (ofSortRule rule) = some rule := by
  simp [sortRule, ofSortRule, required, optional, lookup]

@[simp] theorem measure_ofMeasure (m : Measure) : measure (ofMeasure m) = some m := by
  have hformat := nullable_ofText?_map rfl choice_formatName m.format
  simp [measure, ofMeasure, required, optional, lookup, hformat]

@[simp] theorem visual_ofVisual (v : Visual) : visual (ofVisual v) = some v := by
  have hdirection := nullable_ofText?_map rfl direction_name v.sortDirection
  simp [visual, ofVisual, required, optional, lookup, hdirection]

@[simp] theorem view_ofView (v : View) : view (ofView v) = some v := by
  simp [view, ofView, required, optional, lookup, list_map]

@[simp] theorem runInput_ofRunInput (i : RunInput) : runInput (ofRunInput i) = some i := by
  have hfilters := nullable_elim rfl (list_map filter_ofFilter) i.filters
  have hparameters := table_ofTable text_text i.parameters
  simp [runInput, ofRunInput, optional, lookup, hfilters, hparameters]

/-- The written form of a row is that of a table whose values are written as they are. -/
@[simp] theorem row_ofRow (r : Row) : row (ofRow r) = some r := by
  have hrow : ofRow r = ofTable id r := by simp [ofRow, ofTable, Keyed.mapValues]
  rw [hrow]
  exact table_ofTable (fun _ => rfl) r

@[simp] theorem list_ofRows (rows : List Row) : list row (ofRows rows) = some rows :=
  list_map row_ofRow rows

@[simp] theorem tableResult_ofTableResult (t : Table) :
    tableResult (ofTableResult t) = some t := by
  have htotals := table_ofTable number_number t.totals
  simp [tableResult, ofTableResult, optional, lookup, htotals]

@[simp] theorem chart_ofChart (c : Chart) : chart (ofChart c) = some c := by
  simp [chart, ofChart, required, optional, lookup]

@[simp] theorem insight_ofInsight (i : Insight) : insight (ofInsight i) = some i := by
  simp [insight, ofInsight, required, lookup]

@[simp] theorem insights_ofInsights (i : Insights) : insights (ofInsights i) = some i := by
  simp [insights, ofInsights, optional, lookup, list_map]

@[simp] theorem runResult_ofRunResult (r : RunResult) : runResult (ofRunResult r) = some r := by
  have hparameters := table_ofTable text_text r.appliedParameters
  simp [runResult, ofRunResult, required, optional, lookup, list_map, hparameters]

@[simp] theorem principal_ofPrincipal (p : Principal) : principal (ofPrincipal p) = some p := by
  simp [principal, ofPrincipal, required, optional, lookup]

@[simp] theorem permission_ofPermission (p : Permission) :
    permission (ofPermission p) = some p := by
  simp [permission, ofPermission, optional, lookup]

theorem dataset_ofDataset (stamp : String) (d : Dataset) :
    dataset stamp (ofDataset d) = some d := by
  simp [dataset, ofDataset, datasetEntries, updateNames, required, optional, lookup, list_map]

/-- The written form tells its own time, so no stamp is asked for. -/
theorem datasetStamped_ofDataset (stamp : Outcome String) (d : Dataset) :
    datasetStamped stamp (ofDataset d) = .ok (some d) := by
  have htime : (entries (ofDataset d)).map (lookup updateNames) =
      some (some (.text d.updatedAt)) := by
    simp [ofDataset, datasetEntries, updateNames, lookup]
  rw [datasetStamped, htime]
  exact congrArg Except.ok (dataset_ofDataset "" d)

theorem fiscalCalendar_ofFiscalCalendar {c : FiscalCalendar}
    (h : 1 ≤ c.startMonth ∧ c.startMonth ≤ 12) :
    fiscalCalendar (ofFiscalCalendar c) = some c := by
  have hmonth : integerWithin 1 12 (.int c.startMonth) = some c.startMonth := by
    simp [integerWithin, Option.filter, h]
  simp [fiscalCalendar, ofFiscalCalendar, required, optional, lookup, hmonth]

/-! ## Calendars that were read -/

/-- A field with a default holds the default or what its reader took. -/
theorem optional_inv {α : Type} {names : List String} {read : Reader α} {default a : α}
    {fields : Entries} (h : optional names read default fields = some a) :
    a = default ∨ ∃ value, read value = some a := by
  rw [optional] at h
  split at h
  · next value _ => exact .inr ⟨value, h⟩
  · exact .inl (Option.some.inj h).symm

theorem integerWithin_inv {low high n : Int} {value : Value}
    (h : integerWithin low high value = some n) : low ≤ n ∧ n ≤ high := by
  obtain ⟨-, hbounds⟩ := Option.filter_eq_some_iff.1 h
  exact of_decide_eq_true hbounds

/-- A calendar that was read starts its years in one of the twelve months. -/
theorem startMonth_of_fiscalCalendar {value : Value} {c : FiscalCalendar}
    (h : fiscalCalendar value = some c) : 1 ≤ c.startMonth ∧ c.startMonth ≤ 12 := by
  obtain ⟨fields, -, h⟩ := Option.bind_eq_some_iff.1 h
  obtain ⟨id, -, h⟩ := Option.bind_eq_some_iff.1 h
  obtain ⟨name, -, h⟩ := Option.bind_eq_some_iff.1 h
  obtain ⟨month, hmonth, h⟩ := Option.bind_eq_some_iff.1 h
  obtain ⟨description, -, h⟩ := Option.bind_eq_some_iff.1 h
  obtain rfl := Option.some.inj h
  rcases optional_inv hmonth with rfl | ⟨value, hvalue⟩
  · show (1 : Int) ≤ 11 ∧ (11 : Int) ≤ 12
    decide
  · exact integerWithin_inv hvalue

/-! ## All models -/

/-- **Models survive the wire.** Whatever value a model was read from, in camel case, in snake case
or under a short name, and with numbers and truth values in any accepted spelling, its written form
is read as an equal one, in which integers and doubles are kept apart. A dataset is read back under
any stamp, even where the clock has none. -/
theorem models_roundTrip :
    RoundTrips view ofView ∧ RoundTrips filter ofFilter ∧ RoundTrips sortRule ofSortRule ∧
    RoundTrips measure ofMeasure ∧ RoundTrips visual ofVisual ∧
    RoundTrips runInput ofRunInput ∧ RoundTrips tableResult ofTableResult ∧
    RoundTrips chart ofChart ∧ RoundTrips insights ofInsights ∧
    RoundTrips runResult ofRunResult ∧ RoundTrips principal ofPrincipal ∧
    (∀ stamp later value d, datasetStamped stamp value = .ok (some d) →
      datasetStamped later (ofDataset d) = .ok (some d)) ∧
    RoundTrips fiscalCalendar ofFiscalCalendar := by
  refine ⟨roundTrips_of_forall view_ofView, roundTrips_of_forall filter_ofFilter,
    roundTrips_of_forall sortRule_ofSortRule, roundTrips_of_forall measure_ofMeasure,
    roundTrips_of_forall visual_ofVisual, roundTrips_of_forall runInput_ofRunInput,
    roundTrips_of_forall tableResult_ofTableResult, roundTrips_of_forall chart_ofChart,
    roundTrips_of_forall insights_ofInsights, roundTrips_of_forall runResult_ofRunResult,
    roundTrips_of_forall principal_ofPrincipal,
    fun _ later _ d _ => datasetStamped_ofDataset later d, fun value c hc => ?_⟩
  exact fiscalCalendar_ofFiscalCalendar (startMonth_of_fiscalCalendar hc)

/-- A view under its short names, with a size of pages in text and a truth value as a word. -/
def spendObject : Value :=
  .object [("id", .text "spend"), ("rows", .list [.text "region"]),
    ("values", .list [.object [("field", .text "amount"), ("label", .text "total")]]),
    ("page_size", .text " 3.0 "), ("showTotals", .text "No")]

theorem models_roundTrip_spend :
    ∃ v, view spendObject = some v ∧ v.rowFields = ["region"] ∧ v.pageSize = 3 ∧
      v.showTotals = false ∧ view (ofView v) = some v := by
  have hfields : (view spendObject).map (fun v => (v.rowFields, v.pageSize, v.showTotals)) =
      some (["region"], 3, false) := by decide +kernel
  obtain ⟨v, hv, hfields⟩ := Option.map_eq_some_iff.1 hfields
  obtain ⟨hrows, hfields⟩ := Prod.mk.inj hfields
  obtain ⟨hsize, htotals⟩ := Prod.mk.inj hfields
  exact ⟨v, hv, hrows, hsize, htotals, models_roundTrip.1 _ v hv⟩

end Reporting.Wire
