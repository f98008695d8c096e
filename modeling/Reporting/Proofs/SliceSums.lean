import Reporting.Proofs.Columns
import Reporting.Proofs.Completion
import Reporting.Proofs.NearestDoubles

/-!
# Slices that add up

A pie adds its values up another way than the total of the table: as 64-bit integers by category,
whose sums turn into doubles and back (`Slices.collapse_signed`). On integers that come to no more
than `2 ^ 53` all together neither step changes anything (`Slices.collapse_ints`), so the slices of
a pie are the exact sums over its categories, and add up to the total (`runView_slices`).
-/

namespace Reporting

namespace Slices

/-! ## Columns of integers -/

theorem integers_map_int (ns : List Int) : Number.integers (ns.map .int) = ns := by
  rw [Number.integers, List.filterMap_map]
  exact List.filterMap_some

/-- Integers of 64 bits are held with a sign. -/
theorem Column.of_ints {ns : List Int} (h : ∀ n ∈ ns, -2 ^ 63 ≤ n ∧ n < 2 ^ 63) :
    Column.of (ns.map .int) = .signed := by
  have hlow : ns.any (· < -2 ^ 63) = false := by
    refine List.any_eq_false.2 fun n hn => ?_
    have := h n hn
    simp only [decide_eq_true_eq]
    omega
  have hhigh : ∀ top : Int, 2 ^ 63 ≤ top → ns.any (top ≤ ·) = false := by
    intro top htop
    refine List.any_eq_false.2 fun n hn => ?_
    have := h n hn
    simp only [decide_eq_true_eq]
    omega
  rw [Column.of, integers_map_int, hlow, hhigh _ (by decide), hhigh _ (by decide),
    List.length_map]
  simp

theorem wrapSigned_mem (n : Int) : -2 ^ 63 ≤ wrapSigned n ∧ wrapSigned n < 2 ^ 63 := by
  rw [wrapSigned, Int.bmod_def]
  omega

theorem wrapSigned_of_mem {n : Int} (h : -2 ^ 63 ≤ n ∧ n < 2 ^ 63) : wrapSigned n = n :=
  Int.bmod_eq_of_le_mul_two (by omega) (by omega)

/-- The sum of integers of 64 bits is the double nearest to what they wrap around to. -/
theorem exists_sumIn_signed (together : Bool) (ns : List Int) :
    ∃ total, sumIn .signed together (ns.map .int) = .ok total ∧
      (Number.double total).integral = .int (Double.rounded (wrapSigned ns.sum)) := by
  have hrange := wrapSigned_mem ns.sum
  have hfits : (Number.int (wrapSigned ns.sum)).Fits := Number.fits_int (by omega)
  obtain ⟨total, htotal, hwhole⟩ := Number.exists_intToDouble_rounded hfits
  refine ⟨total, ?_, by rw [Number.integral, hwhole]⟩
  rw [sumIn, integers_map_int, htotal]

/-! ## Slices of integers -/

/-- The slice of a category. -/
def slice (categoryField valueField category : String) (amount : Int) : Row :=
  (Keyed.empty.put categoryField (.text category)).put valueField (.int amount)

section Collapse

variable {α : Type} {items : List α} {pointOf : α → Row} {label : α → String} {amount : α → Int}
  {x y : String}

theorem natAbs_le_sum {a : α} (ha : a ∈ items) :
    (amount a).natAbs ≤ (items.map fun a => (amount a).natAbs).sum := by
  have hle := natAbs_le_sum_of_mem (List.mem_map_of_mem (f := amount) ha)
  rwa [List.map_map] at hle

/-- The sum over a part of items is no larger than all their integers together. -/
theorem natAbs_sum_le {part : List α} (hpart : part.Sublist items) :
    (part.map amount).sum.natAbs ≤ (items.map fun a => (amount a).natAbs).sum := by
  have hle := natAbs_sum_le_of_sublist (hpart.map amount)
  rwa [List.map_map] at hle

/-- Points with integers of 64 bits are collapsed to the sums that these wrap around to. -/
theorem collapse_signed (hlabel : ∀ a ∈ items, category ((pointOf a).cell x) = .ok (label a))
    (hamount : ∀ a ∈ items, ((pointOf a).cell y).toNumber = .ok (.int (amount a)))
    (hrange : ∀ a ∈ items, -2 ^ 63 ≤ amount a ∧ amount a < 2 ^ 63) :
    collapse x y (items.map pointOf) =
      .ok ((firsts (items.map label)).map fun k => slice x y k
        (Double.rounded (wrapSigned ((fiber label items k).map amount).sum))) := by
  have hcategories : (items.map pointOf).mapM (fun point => category (point.cell x)) =
      .ok (items.map label) := by
    rw [List.mapM_map]
    exact Outcome.mapM_eq_ok_map hlabel
  have hnumbers : (items.map pointOf).mapM (fun point => (point.cell y).toNumber) =
      .ok (items.map fun a => .int (amount a)) := by
    rw [List.mapM_map]
    exact Outcome.mapM_eq_ok_map hamount
  have hcolumn : Column.of (items.map fun a => .int (amount a)) = .signed := by
    rw [← Function.comp_def Number.int, ← List.map_map]
    exact Column.of_ints (List.forall_mem_map.2 hrange)
  have hsums : ∀ k, ∃ total, sumIn .signed (contiguous (items.map label))
      ((fiber label items k).map fun a => .int (amount a)) = .ok total ∧
        (Number.double total).integral =
          .int (Double.rounded (wrapSigned ((fiber label items k).map amount).sum)) := by
    intro k
    obtain ⟨total, htotal, hintegral⟩ := exists_sumIn_signed (contiguous (items.map label))
      ((fiber label items k).map amount)
    rw [List.map_map] at htotal
    exact ⟨total, htotal, hintegral⟩
  choose total htotal hintegral using hsums
  have htotals : ((firsts (items.map label)).map fun k =>
      (fiber label items k).map fun a => Number.int (amount a)).mapM
        (sumIn .signed (contiguous (items.map label))) =
      .ok ((firsts (items.map label)).map total) := by
    rw [List.mapM_map]
    refine Outcome.mapM_eq_ok_map fun k _ => ?_
    rw [Function.comp_apply, htotal k]
  rw [collapse, hcategories, Outcome.ok_bind, hnumbers, Outcome.ok_bind, hcolumn,
    Grouping.groups_zip, htotals, Outcome.ok_bind, List.zipWith_map_right, List.zipWith_self]
  simp only [hintegral]
  rfl

/-- **Collapsing points adds integers up exactly**, if they come to no more than `2 ^ 53` all
together. -/
theorem collapse_ints (hlabel : ∀ a ∈ items, category ((pointOf a).cell x) = .ok (label a))
    (hamount : ∀ a ∈ items, ((pointOf a).cell y).toNumber = .ok (.int (amount a)))
    (hsize : (items.map fun a => (amount a).natAbs).sum ≤ 2 ^ 53) :
    collapse x y (items.map pointOf) =
      .ok ((firsts (items.map label)).map fun k =>
        slice x y k ((fiber label items k).map amount).sum) := by
  have hrange : ∀ a ∈ items, -2 ^ 63 ≤ amount a ∧ amount a < 2 ^ 63 := by
    intro a ha
    have hle : (amount a).natAbs ≤ 2 ^ 53 := (natAbs_le_sum ha).trans hsize
    omega
  rw [collapse_signed hlabel hamount hrange]
  refine congrArg Except.ok (List.map_congr_left fun k _ => ?_)
  have hsum : ((fiber label items k).map amount).sum.natAbs ≤ 2 ^ 53 :=
    (natAbs_sum_le List.filter_sublist).trans hsize
  rw [wrapSigned_of_mem (by omega),
    Double.rounded_of_representable (Double.representable_of_le hsum)]

end Collapse

end Slices

/-! ## Points -/

namespace Chart

variable {row point out : Row} {field : Option String} {name : String}

theorem cell_addCell_self (hfield : bound field = some name) :
    (addCell row field point).cell name = row.cell name := by
  rw [addCell, hfield]
  exact (Keyed.cell_put _ _ _ _).trans (if_pos rfl)

theorem cell_addCell_of_ne (hfield : bound field ≠ some name) :
    (addCell row field point).cell name = point.cell name := by
  rw [addCell]
  split
  · next other hother => rw [Keyed.cell_put, if_neg fun e => hfield (by rw [hother, e])]
  · rfl

theorem cell_addNumber_of_ne (hfield : bound field ≠ some name)
    (h : addNumber row field point = .ok out) : out.cell name = point.cell name := by
  rw [addNumber] at h
  split at h
  · next other hother =>
    obtain ⟨n, -, h⟩ := Outcome.bind_eq_ok.1 h
    rw [← Outcome.pure_eq_ok.1 h, Keyed.cell_put, if_neg fun e => hfield (by rw [hother, e])]
  · rw [← Except.ok.inj h]

theorem exists_number_of_addNumber (hfield : bound field = some name)
    (h : addNumber row field point = .ok out) :
    ∃ n, (row.cell name).toNumber = .ok n ∧ out.cell name = .number n := by
  rw [addNumber, hfield] at h
  obtain ⟨n, hn, h⟩ := Outcome.bind_eq_ok.1 h
  exact ⟨n, hn, by rw [← Outcome.pure_eq_ok.1 h, Keyed.cell_put, if_pos rfl]⟩

end Chart

/-- Whether a visual shares the amounts `y` among the categories `x`: as a pie or a donut of the two
fields, which no other field of it meets. -/
structure Visual.IsSliced (visual : Visual) (x y : String) : Prop where
  sliced : Chart.isSliced visual.kind = true
  category : Chart.bound visual.xField = some x
  amount : Chart.bound visual.yField = some y
  apart : x ≠ y
  series : visual.seriesField ≠ some x ∧ visual.seriesField ≠ some y
  metric : visual.metricField ≠ some x ∧ visual.metricField ≠ some y

namespace Chart

theorem eq_of_bound {field : Option String} {name : String} (h : bound field = some name) :
    field = some name :=
  (Option.filter_eq_some_iff.1 h).1

variable {visual : Visual} {x y : String} {rows : List Row} {chart : Chart} {amount : Row → Int}

/-- A point has the category of its row, and the number of its amount. -/
theorem cells_of_point (hvisual : visual.IsSliced x y) {row out : Row}
    (h : point visual row = .ok out) :
    out.cell x = row.cell x ∧ ∃ n, (row.cell y).toNumber = .ok n ∧ out.cell y = .number n := by
  obtain ⟨withY, hwithY, h⟩ := Outcome.bind_eq_ok.1 h
  have hkept : ∀ name, visual.seriesField ≠ some name → visual.metricField ≠ some name →
      out.cell name = withY.cell name := by
    intro name hseries hmetric
    rw [cell_addNumber_of_ne (fun e => hmetric (eq_of_bound e)) h,
      cell_addCell_of_ne fun e => hseries (eq_of_bound e)]
  have hx : bound visual.yField ≠ some x := by
    rw [hvisual.amount]
    exact fun e => hvisual.apart (Option.some.inj e).symm
  obtain ⟨n, hn, hcell⟩ := exists_number_of_addNumber hvisual.amount hwithY
  refine ⟨?_, n, hn, ?_⟩
  · rw [hkept x hvisual.series.1 hvisual.metric.1, cell_addNumber_of_ne hx hwithY,
      cell_addCell_self hvisual.category]
  · rw [hkept y hvisual.series.2 hvisual.metric.2, hcell]

/-- **A pie of integers** has a slice for each category, with the sum over its rows. -/
theorem points_of_build (hvisual : visual.IsSliced x y)
    (hamount : ∀ row ∈ rows, (row.cell y).toNumber = .ok (.int (amount row)))
    (hsize : (rows.map fun row => (amount row).natAbs).sum ≤ 2 ^ 53)
    (h : build rows visual = .ok chart) :
    ∃ label : Row → String, (∀ row ∈ rows, Slices.category (row.cell x) = .ok (label row)) ∧
      chart.points = (firsts (rows.map label)).map fun k =>
        Slices.slice x y k ((fiber label rows k).map amount).sum := by
  obtain ⟨points, hpoints, h⟩ := Outcome.bind_eq_ok.1 h
  dsimp only at h
  rw [if_pos hvisual.sliced, eq_of_bound hvisual.category, eq_of_bound hvisual.amount,
    Option.getD_some, Option.getD_some] at h
  obtain ⟨collapsed, hcollapsed, h⟩ := Outcome.bind_eq_ok.1 h
  obtain rfl := Outcome.pure_eq_ok.1 h
  obtain ⟨pointOf, rfl, hpointOf⟩ := Outcome.exists_map_of_mapM hpoints
  obtain ⟨categories, hcategories, -⟩ := Outcome.bind_eq_ok.1 hcollapsed
  obtain ⟨labelOf, -, hlabelOf⟩ := Outcome.exists_map_of_mapM hcategories
  have hlabel : ∀ row ∈ rows,
      Slices.category ((pointOf row).cell x) = .ok (labelOf (pointOf row)) :=
    fun row hrow => hlabelOf _ (List.mem_map_of_mem hrow)
  have hnumber : ∀ row ∈ rows, ((pointOf row).cell y).toNumber = .ok (.int (amount row)) := by
    intro row hrow
    obtain ⟨-, n, hn, hcell⟩ := cells_of_point hvisual (hpointOf row hrow)
    rw [hamount row hrow] at hn
    rw [hcell, ← Except.ok.inj hn]
    have hle : (amount row).natAbs ≤ 2 ^ 53 := (Slices.natAbs_le_sum hrow).trans hsize
    exact Value.toNumber_int (Number.fits_int (hle.trans (by decide)))
  refine ⟨fun row => labelOf (pointOf row), fun row hrow => ?_, ?_⟩
  · rw [← (cells_of_point hvisual (hpointOf row hrow)).1, hlabel row hrow]
  · rw [Slices.collapse_ints hlabel hnumber hsize] at hcollapsed
    exact (Except.ok.inj hcollapsed).symm

end Chart

/-! ## Runs -/

/-- **The slices of a pie add up to the total.** After a successful run with any paging, a pie or a
donut over a metric column whose cells count as integers, no more than `2 ^ 53` all together, has
one slice for each category of the rows of the whole table, by first appearance. Its value is the
sum over the rows of the category, and all values together are the total of the column. -/
theorem runView_slices {defaultPageSize : Int} {clock : Outcome Moment} {rows : List Row}
    {view : View} {calculations : List Calculation} {input : RunInput} {result : RunResult}
    (run : runView defaultPageSize clock rows view calculations input = .ok result) :
    ∃ ordered, Table.allRows view calculations result.rawRows = .ok ordered ∧
      ∀ (i : Nat) (visual : Visual) (x y : String) (amount : Row → Int),
        view.visuals[i]? = some visual → visual.IsSliced x y →
        y ∈ Table.metricColumns view calculations →
        (∀ row ∈ ordered, (row.cell y).toNumber = .ok (.int (amount row))) →
        (ordered.map fun row => (amount row).natAbs).sum ≤ 2 ^ 53 →
        ∃ (chart : Chart) (label : Row → String), result.charts[i]? = some chart ∧
          (∀ row ∈ ordered, Slices.category (row.cell x) = .ok (label row)) ∧
          chart.points = (firsts (ordered.map label)).map (fun k =>
            Slices.slice x y k ((fiber label ordered k).map amount).sum) ∧
          result.table.totals.get? y =
            some (.int (chart.points.map fun slice => (slice.cell y).written).sum) := by
  obtain ⟨whole, ordered, hsteps, rfl⟩ := runView_inv defaultPageSize run
  refine ⟨ordered, hsteps.sorted, fun i visual x y amount hi hvisual hy hamount hsize => ?_⟩
  obtain ⟨chart, hchart, hbuild⟩ := Outcome.exists_getElem?_of_mapM hsteps.charts hi
  obtain ⟨label, hlabel, hpoints⟩ := Chart.points_of_build hvisual hamount hsize hbuild
  refine ⟨chart, label, hchart, hlabel, hpoints, ?_⟩
  obtain ⟨total, htotal, hget⟩ := get?_columnTotals hsteps.totals hy
  obtain rfl := Except.ok.inj ((columnTotal_ints hamount).symm.trans htotal)
  have hwritten : ∀ k n, ((Slices.slice x y k n).cell y).written = n := fun k n => by
    rw [Slices.slice, Keyed.cell_put, if_pos rfl, Value.written_int]
  refine hget.trans (congrArg (some ∘ Number.int) ?_)
  rw [hpoints, List.map_map, ← sum_map_fiber label ordered amount]
  exact congrArg List.sum (List.map_congr_left fun k _ => (hwritten k _).symm)

/-- The shares of the regions in the sales. -/
def regionShares : Visual :=
  ⟨"shares", "Shares", .pie, some "region", some "total", none, some "least", none, none⟩

/-- The monthly sales with their shares. -/
def sharedSales : View := { monthlySales with visuals := [regionShares] }

/-- The sales, and one of no region. -/
def mixedSales : List Row := sales ++ [.ofList [("month", .text "May"), ("amount", .int 2)]]

/-- The totals of the groups of these sales. -/
def mixedRows : List Row :=
  monthlyRows ++ [.ofList [("region", .null), ("month", .text "May"), ("total", .int 2),
    ("number", .int 1), ("least", .int 2)]]

theorem runView_slices_mixed :
    ∃ result chart,
      runView 25 (.ok ⟨0⟩) mixedSales sharedSales [] { RunInput.plain with page := some 3 } =
        .ok result ∧
      result.charts[0]? = some chart ∧
      chart.points = [Slices.slice "region" "total" "north" 6,
        Slices.slice "region" "total" "south" 5, Slices.slice "region" "total" "Unspecified" 2] ∧
      result.table.totals.get? "total" = some (.int 13) := by
  have hordered : Table.allRows sharedSales [] mixedSales = .ok mixedRows :=
    Table.allRows_of_unsorted rfl (by decide +kernel)
  have hplain : ∀ row ∈ mixedRows, row.IsPlain := by decide +kernel
  have htable : IsReadableTable mixedRows :=
    { rows_isReadable := fun row hrow => (hplain row hrow).isReadable
      length_lt := by decide +kernel
      columnSize_lt := columnSize_lt_of_isPlain (by decide +kernel) hplain }
  have hrun : (runView 25 (.ok ⟨0⟩) mixedSales sharedSales []
      { RunInput.plain with page := some 3 }).Yields (·.rawRows = mixedSales) :=
    yields_runView 25 (by decide +kernel) hordered (htable.yields_columnTotals _)
      (Chart.yields_buildAll htable _) (fun _ => Insights.yields_build htable _ _)
      (Outcome.yields_of_toBool (by decide +kernel))
  obtain ⟨result, hresult, hraw⟩ := hrun
  obtain ⟨ordered, hall, hslices⟩ := runView_slices hresult
  rw [hraw] at hall
  obtain rfl := Except.ok.inj (hordered.symm.trans hall)
  have hamount : ∀ row ∈ mixedRows,
      (row.cell "total").toNumber = .ok (.int (row.cell "total").written) := by decide +kernel
  have hvisual : regionShares.IsSliced "region" "total" :=
    ⟨rfl, by decide, by decide, by decide, by decide, by decide⟩
  obtain ⟨chart, label, hchart, hlabel, hpoints, htotal⟩ :=
    hslices 0 regionShares "region" "total" _ rfl hvisual (by decide +kernel) hamount
      (by decide +kernel)
  -- The labels are what the categories of the rows evaluate to.
  let shown (row : Row) : String := (Slices.category (row.cell "region")).toOption.getD ""
  have hshown : ∀ row ∈ mixedRows, label row = shown row := by
    have hcategory : ∀ row ∈ mixedRows, Slices.category (row.cell "region") = .ok (shown row) := by
      decide +kernel
    exact fun row hrow => Except.ok.inj ((hlabel row hrow).symm.trans (hcategory row hrow))
  have hfibers : ∀ k, fiber label mixedRows k = fiber shown mixedRows k := fun k =>
    fiber_congr hshown
  rw [List.map_congr_left hshown] at hpoints
  simp only [hfibers] at hpoints
  rw [hpoints] at htotal
  exact ⟨result, chart, hresult, hchart, hpoints.trans (by decide +kernel),
    htotal.trans (by decide +kernel)⟩

end Reporting
