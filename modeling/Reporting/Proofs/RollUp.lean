import Mathlib.Tactic.Choose
import Reporting.Proofs.Groups

/-!
# Rolling up

Grouping rows by some dimensions and the resulting rows by fewer of them, with measures that join
the cells under their own labels, gives the rows of the coarser grouping. The fine groups of a
coarse key make up its coarse group, in order of first appearance (`Grouping.MakeUp`), and from
this follow the dimension cells and the measures of the coarse row
(`Grouping.MakeUp.groupRow_rolledUp`).
-/

namespace Reporting

/-- A measure that joins the cells which a measure wrote under its label: counts are added up. -/
def Measure.rolledUp (measure : Measure) : Measure :=
  { measure with
    field := measure.label
    aggregation := if measure.aggregation = "count" then "sum" else measure.aggregation }

/-- A view of the rows of a finer one. -/
def View.rolledUp (view : View) : View :=
  { view with measures := view.measures.map Measure.rolledUp }

/-- A view that the rows of a finer one can be rolled up to. -/
structure View.RollsUpTo (fine coarse : View) : Prop where
  dimensions : coarse.dimensions ⊆ fine.dimensions
  measures : coarse.measures = fine.measures
  labels : (fine.measures.map (·.label)).Nodup
  apart : ∀ measure ∈ fine.measures, measure.label ∉ fine.dimensions
  rolls : ∀ measure ∈ fine.measures, (Aggregation.ofName measure.aggregation).RollsUp

theorem Aggregation.ofName_eq_count {name : String} : ofName name = .count ↔ name = "count" := by
  constructor
  · intro h
    unfold ofName at h
    split at h <;> first | rfl | cases h
  · rintro rfl
    rfl

theorem Measure.ofName_rolledUp (measure : Measure) :
    Aggregation.ofName measure.rolledUp.aggregation =
      (Aggregation.ofName measure.aggregation).rollUp := by
  rw [rolledUp]
  by_cases h : measure.aggregation = "count"
  · rw [if_pos h, h]
    rfl
  · have hne : Aggregation.ofName measure.aggregation ≠ .count :=
      fun e => h (Aggregation.ofName_eq_count.1 e)
    rw [if_neg h]
    cases ha : Aggregation.ofName measure.aggregation with
    | count => exact absurd ha hne
    | sum | average | minimum | maximum | distinctCount => rfl

namespace Grouping

/-! ## The row of a group -/

section GroupRow

variable {view : View} {members : List Row} {out : Row}

theorem cell_groupRow (hapart : ∀ measure ∈ view.measures, measure.label ∉ view.dimensions)
    (h : groupRow view members = .ok out) {field : String} (hfield : field ∈ view.dimensions) :
    out.cell field = ((members.headD .empty).cell field).normalized := by
  have hlabel : field ∉ view.measures.map (·.label) := by
    intro hmem
    obtain ⟨measure, hmeasure, rfl⟩ := List.mem_map.1 hmem
    exact hapart measure hmeasure hfield
  rw [cell_addMeasures_of_not_mem hlabel (groupRow_eq_ok.1 h).2, cell_plainCells _ hfield]

theorem cell_label_groupRow (hlabels : (view.measures.map (·.label)).Nodup) {measure : Measure}
    (hmeasure : measure ∈ view.measures)
    (ha : (Aggregation.ofName measure.aggregation).RollsUp) {amount : Row → Int}
    (hamount : ∀ row ∈ members, (row.cell measure.field).toNumber = .ok (.int (amount row)))
    (h : groupRow view members = .ok out) :
    out.cell measure.label =
      .int ((Aggregation.ofName measure.aggregation).ofInts (members.map amount)) := by
  obtain ⟨value, hvalue, hcell⟩ :=
    cell_addMeasures (filter_label_of_nodup hlabels hmeasure) (groupRow_eq_ok.1 h).2
  rw [measureValue_ints ha hamount] at hvalue
  rw [hcell, ← Except.ok.inj hvalue]
  rfl

end GroupRow

/-! ## Fine groups of a coarse one -/

/-- The fine groups `part k` make up a coarse group, and `rowOf k` are their rows. -/
structure MakeUp (fine : View) (part : String → List Row) (rowOf : String → Row)
    (ks : List String) (whole : List Row) : Prop where
  made : ∀ k ∈ ks, groupRow fine (part k) = .ok (rowOf k)
  nonempty : ∀ k ∈ ks, part k ≠ []
  perm : (ks.flatMap part).Perm whole
  first : (ks.head?.bind fun k => (part k).head?) = whole.head?

namespace MakeUp

variable {fine coarse : View} {part : String → List Row} {rowOf : String → Row}
  {ks : List String} {whole : List Row}

/-- The coarse group and the rows of its fine groups start with the same dimension cells. -/
theorem cell_first (h : MakeUp fine part rowOf ks whole)
    (hapart : ∀ measure ∈ fine.measures, measure.label ∉ fine.dimensions) {field : String}
    (hfield : field ∈ fine.dimensions) :
    (((ks.map rowOf).headD .empty).cell field).normalized =
      ((whole.headD .empty).cell field).normalized := by
  have hfirst := h.first
  cases ks with
  | nil => rw [List.map_nil, List.headD_eq_head?_getD, List.headD_eq_head?_getD, ← hfirst]; rfl
  | cons k rest =>
    obtain ⟨row, others, hpart⟩ := List.exists_cons_of_ne_nil (h.nonempty k (by simp))
    have hcell := cell_groupRow hapart (h.made k (by simp)) hfield
    rw [List.head?_cons, Option.bind_some, hpart, List.head?_cons] at hfirst
    rw [hpart, List.headD_cons] at hcell
    rw [List.map_cons, List.headD_cons, hcell, Value.normalized_normalized,
      List.headD_eq_head?_getD, ← hfirst, Option.getD_some]

/-- The first row of a coarse group is that of its first fine group. -/
theorem hasScalar_first (h : MakeUp fine part rowOf ks whole) :
    ∀ field ∈ fine.dimensions, ((whole.headD .empty).cell field).HasScalar := by
  intro field hfield
  have hfirst := h.first
  cases ks with
  | nil =>
    rw [List.headD_eq_head?_getD, ← hfirst]
    trivial
  | cons k rest =>
    obtain ⟨row, others, hpart⟩ := List.exists_cons_of_ne_nil (h.nonempty k (by simp))
    have hscalar := (groupRow_eq_ok.1 (h.made k (by simp))).1 field hfield
    rw [List.head?_cons, Option.bind_some, hpart, List.head?_cons] at hfirst
    rw [hpart, List.headD_cons] at hscalar
    rw [List.headD_eq_head?_getD, ← hfirst, Option.getD_some]
    exact hscalar

/-- A rolled up measure of the rows of fine groups has the value of the measure in the coarse
group. -/
theorem measureValue_rolledUp (h : MakeUp fine part rowOf ks whole)
    (hlabels : (fine.measures.map (·.label)).Nodup) {measure : Measure}
    (hmeasure : measure ∈ fine.measures)
    (ha : (Aggregation.ofName measure.aggregation).RollsUp) {amount : Row → Int}
    (hamount : ∀ row ∈ whole, (row.cell measure.field).toNumber = .ok (.int (amount row)))
    {value : Number} (hvalue : measureValue (ks.map rowOf) measure.rolledUp = .ok value) :
    measureValue whole measure = .ok value := by
  let a := Aggregation.ofName measure.aggregation
  have hmem : ∀ k ∈ ks, ∀ row ∈ part k, row ∈ whole := fun k hk row hrow =>
    h.perm.subset (List.mem_flatMap.2 ⟨k, hk, hrow⟩)
  have hcell : ∀ k ∈ ks, (rowOf k).cell measure.label = .int (a.ofInts ((part k).map amount)) :=
    fun k hk => cell_label_groupRow hlabels hmeasure ha
      (fun row hrow => hamount row (hmem k hk row hrow)) (h.made k hk)
  let written (row : Row) : Int := (row.cell measure.label).written
  have hwritten : ∀ k ∈ ks, written (rowOf k) = a.ofInts ((part k).map amount) := by
    intro k hk
    simp only [written, hcell k hk, Value.written_int]
  have hnumber : ∀ row ∈ ks.map rowOf,
      (row.cell measure.rolledUp.field).toNumber = .ok (.int (written row)) := by
    intro row hrow
    obtain ⟨x, hx⟩ := exists_toNumber_of_measureValue hvalue hrow
    obtain ⟨k, hk, rfl⟩ := List.mem_map.1 hrow
    have hx' : (Value.int (a.ofInts ((part k).map amount))).toNumber = .ok x := hcell k hk ▸ hx
    rw [hx, Value.eq_of_toNumber_int hx', hwritten k hk]
  have hrolls : (Aggregation.ofName measure.rolledUp.aggregation).RollsUp := by
    rw [measure.ofName_rolledUp]
    exact Aggregation.rollsUp_rollUp ha
  have hlist : (ks.map rowOf).map written = (ks.map fun k => (part k).map amount).map a.ofInts := by
    rw [List.map_map, List.map_map]
    exact List.map_congr_left hwritten
  have hsame : a.rollUp.ofInts ((ks.map rowOf).map written) = a.ofInts (whole.map amount) :=
    calc a.rollUp.ofInts ((ks.map rowOf).map written)
        = a.rollUp.ofInts ((ks.map fun k => (part k).map amount).map a.ofInts) := by rw [hlist]
      _ = a.ofInts (ks.map fun k => (part k).map amount).flatten := by
          refine Aggregation.ofInts_flatten ha fun ns hns => ?_
          obtain ⟨k, hk, rfl⟩ := List.mem_map.1 hns
          simpa using h.nonempty k hk
      _ = a.ofInts ((ks.flatMap part).map amount) := by
          rw [List.map_flatMap, List.flatMap_def]
      _ = a.ofInts (whole.map amount) := a.ofInts_perm (h.perm.map amount)
  rw [measureValue_ints hrolls hnumber, measure.ofName_rolledUp] at hvalue
  rw [measureValue_ints ha hamount, ← hvalue, hsame]

/-- The rows of fine groups roll up to the row of the coarse group. -/
theorem groupRow_rolledUp (h : MakeUp fine part rowOf ks whole) (hviews : fine.RollsUpTo coarse)
    (hints : ∀ measure ∈ fine.measures, ∀ row ∈ whole,
      ∃ n : Int, (row.cell measure.field).toNumber = .ok (.int n))
    {out : Row} (hout : groupRow coarse.rolledUp (ks.map rowOf) = .ok out) :
    groupRow coarse whole = .ok out := by
  have hcells : plainCells coarse.dimensions ((ks.map rowOf).headD .empty) =
      plainCells coarse.dimensions (whole.headD .empty) :=
    plainCells_congr fun field hfield => h.cell_first hviews.apart (hviews.dimensions hfield)
  have hrolled := (groupRow_eq_ok.1 hout).2
  refine groupRow_eq_ok.2 ⟨fun field hfield =>
    h.hasScalar_first field (hviews.dimensions hfield), hcells ▸ ?_⟩
  refine addMeasures_mono (f := Measure.rolledUp) (fun _ => rfl)
    (fun measure hmem value hvalue => ?_) hrolled
  rw [hviews.measures] at hmem
  choose! amount hamount using hints measure hmem
  exact h.measureValue_rolledUp hviews.labels hmem (hviews.rolls measure hmem) hamount hvalue

end MakeUp

/-! ## The keys of the rows of groups -/

variable {fine coarse : View} {rows : List Row}

/-- The coarse key of a group row is that of its first member. -/
theorem plainKey_groupRow (hviews : fine.RollsUpTo coarse) {members : List Row} {out : Row}
    (h : groupRow fine members = .ok out) :
    plainKey coarse.dimensions out = plainKey coarse.dimensions (members.headD .empty) := by
  refine congrArg (fun texts => String.ofList (Text.joined [separator] texts))
    (List.map_congr_left fun field hfield => ?_)
  rw [cell_groupRow hviews.apart h (hviews.dimensions hfield), Value.normalized_normalized]

/-- The coarse key of a row is that of the first row of its fine group. -/
theorem plainKey_head_fiber (hviews : fine.RollsUpTo coarse)
    (hparted : ∀ row ∈ rows, IsParted fine.dimensions row) {row : Row} (hrow : row ∈ rows) :
    plainKey coarse.dimensions row =
      plainKey coarse.dimensions ((fiber (plainKey fine.dimensions) rows
        (plainKey fine.dimensions row)).headD .empty) := by
  have hkeys : plainKey fine.dimensions row ∈ firsts (rows.map (plainKey fine.dimensions)) :=
    mem_firsts.2 (List.mem_map_of_mem hrow)
  obtain ⟨hfirst, hkey⟩ := mem_fiber.1 (headD_fiber_mem hkeys .empty)
  exact plainKey_congr hviews.dimensions
    (texts_of_plainKey (hparted row hrow) (hparted _ hfirst) hkey.symm)

end Grouping

/-- **Rolling up the rows of fine groups gives the rows of coarse groups**: for measures that sum,
count or take the least or the greatest of integers, under labels of their own. -/
theorem groupRows_rolledUp {fine coarse : View} {rows detailed rolled : List Row}
    (hviews : fine.RollsUpTo coarse)
    (hints : ∀ measure ∈ fine.measures, ∀ row ∈ rows,
      ∃ n : Int, (row.cell measure.field).toNumber = .ok (.int n))
    (hparted : ∀ row ∈ rows, Grouping.IsParted fine.dimensions row)
    (hdetailed : groupRows fine rows = .ok detailed)
    (hrolled : groupRows coarse.rolledUp detailed = .ok rolled) :
    groupRows coarse rows = .ok rolled := by
  let key := Grouping.plainKey fine.dimensions
  let coarseKey := Grouping.plainKey coarse.dimensions
  let part (k : String) := coarseKey ((fiber key rows k).headD .empty)
  have hkeyable := isKeyable_of_groupRows hdetailed
  have hpart : ∀ row ∈ rows, coarseKey row = part (key row) := fun row hrow =>
    Grouping.plainKey_head_fiber hviews hparted hrow
  -- The detailed rows as a function of the fine keys.
  have hmade := hdetailed
  rw [groupRows_eq hkeyable] at hmade
  obtain ⟨rowOf, rfl, hrowOf⟩ := Outcome.exists_map_of_mapM hmade
  have hkeys : ∀ k ∈ firsts (rows.map key), (coarseKey ∘ rowOf) k = part k := fun k hk =>
    Grouping.plainKey_groupRow hviews (hrowOf k hk)
  rw [groupRows_map (isKeyable_of_groupRows hrolled) hkeys, firsts_map_part hpart] at hrolled
  rw [groupRows_eq fun row hrow field hfield =>
    hkeyable row hrow field (hviews.dimensions hfield)]
  refine Outcome.mapM_mono (fun c _ out hout => ?_) hrolled
  have hmakeUp : Grouping.MakeUp fine (fiber key rows) rowOf (fiber part (firsts (rows.map key)) c)
      (fiber coarseKey rows c) :=
    { made := fun k hk => hrowOf k (mem_fiber.1 hk).1
      nonempty := fun k hk => fiber_ne_nil (mem_fiber.1 hk).1
      perm := flatMap_fiber_coarsen hpart
      first := head?_fiber_coarsen hpart }
  exact hmakeUp.groupRow_rolledUp hviews
    (fun measure hmem row hrow => hints measure hmem row (mem_fiber.1 hrow).1) hout

/-- The sales of each region. -/
def regionalSales : View := { monthlySales with columnFields := [] }

theorem groupRows_rolledUp_sales :
    groupRows regionalSales sales = .ok [
      .ofList [("region", .text "north"), ("total", .int 6), ("number", .int 3),
        ("least", .int (-4))],
      .ofList [("region", .text "south"), ("total", .int 5), ("number", .int 1),
        ("least", .int 5)]] := by
  have hints : ∀ row ∈ sales, ∃ n : Int, (row.cell "amount").toNumber = .ok (.int n) := by
    simp only [sales, List.forall_mem_cons]
    exact ⟨⟨3, by decide +kernel⟩, ⟨5, by decide +kernel⟩, ⟨-4, by decide +kernel⟩,
      ⟨7, by decide +kernel⟩, by simp⟩
  have hfields : ∀ measure ∈ monthlySales.measures, measure.field = "amount" := by decide
  have hviews : monthlySales.RollsUpTo regionalSales :=
    ⟨by decide, rfl, by decide, by decide, by decide⟩
  have hdetailed : groupRows monthlySales sales = .ok monthlyRows := by decide +kernel
  exact groupRows_rolledUp hviews
    (fun measure hmeasure row hrow => hfields measure hmeasure ▸ hints row hrow)
    (by decide +kernel) hdetailed (by decide +kernel)

end Reporting
