import Reporting.Proofs.Aggregation
import Reporting.Proofs.InsightKinds
import Reporting.Proofs.Sorting

/-!
# The rows that drive a metric

The drivers of a metric are the rows with its largest amounts, by absolute value: the larger one
first, and the earlier one of equal ones. This determines them (`IsLargest.unique`). The insight
shows each of them with its label and its amount (`Insight.drivers_largest`).
-/

namespace Reporting

open Outcome

/-! ## The largest of some sizes -/

/-- Whether one place is ahead of another: its size is larger, or as large and earlier. -/
def Ahead (sizes : List Nat) (i j : Nat) : Prop :=
  sizes.getD j 0 < sizes.getD i 0 ∨ sizes.getD i 0 = sizes.getD j 0 ∧ i < j

instance (sizes : List Nat) (i j : Nat) : Decidable (Ahead sizes i j) := by
  unfold Ahead
  infer_instance

theorem Ahead.asymm {sizes : List Nat} {i j : Nat} (h : Ahead sizes i j) : ¬ Ahead sizes j i := by
  unfold Ahead at *
  omega

/-- Whether places are those of the largest sizes, so many of them if there are, in order. -/
structure IsLargest (count : Nat) (sizes : List Nat) (places : List Nat) : Prop where
  length_eq : places.length = min count sizes.length
  lt_length : ∀ i ∈ places, i < sizes.length
  ordered : places.Pairwise (Ahead sizes)
  ahead : ∀ i ∈ places, ∀ j < sizes.length, j ∉ places → Ahead sizes i j

theorem isLargest_take {sizes places : List Nat} (hperm : places.Perm (List.range sizes.length))
    (hordered : places.Pairwise (Ahead sizes)) (count : Nat) :
    IsLargest count sizes (places.take count) where
  length_eq := by rw [List.length_take, hperm.length_eq, List.length_range]
  lt_length i hi := List.mem_range.1 (hperm.mem_iff.1 (List.mem_of_mem_take hi))
  ordered := hordered.sublist (List.take_sublist count places)
  ahead i hi j hj hout := by
    have hsplit := List.take_append_drop count places
    have hmem : j ∈ places := hperm.mem_iff.2 (List.mem_range.2 hj)
    rw [← hsplit, List.mem_append, or_iff_right hout] at hmem
    rw [← hsplit, List.pairwise_append] at hordered
    exact hordered.2.2 i hi j hmem

namespace IsLargest

variable {count : Nat} {sizes places others : List Nat}

theorem nodup (h : IsLargest count sizes places) : places.Nodup :=
  h.ordered.imp fun hahead heq => (heq ▸ hahead).asymm (heq ▸ hahead)

/-- There is only one list of the largest sizes. -/
theorem unique (h : IsLargest count sizes places) (hothers : IsLargest count sizes others) :
    places = others := by
  have hsubset : places ⊆ others := by
    intro i hi
    by_contra hout
    -- The others hold a place that is missing here, and each of the two would be ahead.
    obtain ⟨j, hj, hmissing⟩ : ∃ j ∈ others, j ∉ places := by
      by_contra hall
      push Not at hall
      have hperm := (List.subperm_of_subset hothers.nodup hall).perm_of_length_le
        (h.length_eq.trans hothers.length_eq.symm).le
      exact hout (hperm.mem_iff.2 hi)
    exact (h.ahead i hi j (hothers.lt_length j hj) hmissing).asymm
      (hothers.ahead j hj i (h.lt_length i hi) hout)
  have hperm := (List.subperm_of_subset h.nodup hsubset).perm_of_length_le
    (hothers.length_eq.trans h.length_eq.symm).le
  exact hperm.eq_of_pairwise (fun i j _ _ hij hji => absurd hji hij.asymm) h.ordered
    hothers.ordered

end IsLargest

namespace Insight

/-! ## The order of the rows -/

variable {columns : List String} {rows : List Row} {metric dimension : String}

theorem getD_size {amount : Row → Int} {row : Row} {i : Nat} (h : rows[i]? = some row) :
    (rows.map fun row => (amount row).natAbs).getD i 0 = (amount row).natAbs := by
  rw [List.getD_eq_getElem?_getD, List.getElem?_map, h]
  rfl

/-- Labelled rows by size, with the places of the rows. -/
theorem exists_bySize (shown : Row → String) (amount : Row → Int) (rows : List Row) :
    ∃ placed : List (Row × Nat), (∀ p ∈ placed, rows[p.2]? = some p.1) ∧
      bySize (rows.map fun row => (shown row, .int (amount row))) =
        placed.map (fun p => (shown p.1, .int (amount p.1))) ∧
      ∀ count, IsLargest count (rows.map fun row => (amount row).natAbs)
        ((placed.take count).map Prod.snd) := by
  have htrans : ∀ a b c : Row, decide ((amount b).natAbs ≤ (amount a).natAbs) = true →
      decide ((amount c).natAbs ≤ (amount b).natAbs) = true →
        decide ((amount c).natAbs ≤ (amount a).natAbs) = true := by
    simp only [decide_eq_true_eq]
    exact fun a b c hab hbc => hbc.trans hab
  have htotal : ∀ a b : Row, (decide ((amount b).natAbs ≤ (amount a).natAbs) ||
      decide ((amount a).natAbs ≤ (amount b).natAbs)) = true := by
    simp only [Bool.or_eq_true, decide_eq_true_eq]
    exact fun a b => Nat.le_total _ _
  obtain ⟨placed, hperm, hfirsts, hordered⟩ := exists_placed_mergeSort htrans htotal rows
  have hplaced : ∀ p ∈ placed, rows[p.2]? = some p.1 := fun p hp =>
    List.mem_zipIdx_iff_getElem?.1 (hperm.mem_iff.1 hp)
  refine ⟨placed, hplaced, ?_, fun count => ?_⟩
  · rw [← Function.comp_def (fun row => (shown row, Number.int (amount row))) Prod.fst,
      ← List.map_map, hfirsts, bySize]
    refine (List.map_mergeSort fun a _ b _ => ?_).symm
    simp only [Number.abs, Number.less_int, Int.ofNat_lt, ← decide_not, Nat.not_lt]
  · have hplaces := hperm.map Prod.snd
    rw [List.zipIdx_map_snd, ← List.range_eq_range'] at hplaces
    rw [List.map_take]
    refine isLargest_take (by rwa [List.length_map]) (List.pairwise_map.2 ?_) count
    refine hordered.imp_of_mem fun {p q} hp hq hpq => ?_
    simp only [decide_eq_true_eq] at hpq
    rw [Ahead, getD_size (hplaced p hp), getD_size (hplaced q hq)]
    omega

/-! ## The rows that are shown -/

/-- The label that a row is shown with. -/
def driverLabel (dimension : String) (row : Row) : String :=
  match row.cell dimension with
  | .null => "Unspecified"
  | value => value.plainText

theorem label_of_isWritable {row : Row} (h : (row.cell dimension).IsWritable) :
    label "Unspecified" (some dimension) row = .ok (driverLabel dimension row) := by
  dsimp only [label, driverLabel]
  cases hcell : row.cell dimension with
  | null => rfl
  | bool | number | text | list | object => exact Value.toText_eq_ok.2 ⟨hcell ▸ h, rfl⟩

/-- Whether a text shows the row at a place: its label and its amount, with commas and two decimal
places at most. -/
def ShowsRow (dimension : String) (amount : Row → Int) (rows : List Row) (i : Nat)
    (entry : String) : Prop :=
  ∃ row written, rows[i]? = some row ∧ (Number.int (amount row)).grouped 2 = .ok written ∧
    entry = driverLabel dimension row ++ " (" ++ written ++ ")"

theorem rightUnique_showsRow (dimension : String) (amount : Row → Int) (rows : List Row) :
    Relator.RightUnique (ShowsRow dimension amount rows) := by
  rintro i _ _ ⟨row, written, hrow, hwritten, rfl⟩ ⟨other, text, hother, htext, rfl⟩
  obtain rfl := Option.some.inj (hrow.symm.trans hother)
  rw [Except.ok.inj (hwritten.symm.trans htext)]

/-- The insight that lists the drivers. -/
def drivers (entries : List String) : Insight where
  kind := .driver
  title := "Top drivers"
  detail := "Largest contributors are " ++ String.intercalate ", " entries ++ "."

/-- The drivers are the rows with the largest amounts. -/
theorem driver?_eq {amount : Row → Int} (hrows : rows ≠ [])
    (hdimension : dimension? columns metric = some dimension)
    (hlabels : ∀ row ∈ rows, (row.cell dimension).IsWritable)
    (hamounts : ∀ row ∈ rows, (row.cell metric).toNumber = .ok (.int (amount row))) :
    ∃ places entries,
      IsLargest driverCount (rows.map fun row => (amount row).natAbs) places ∧
      List.Forall₂ (ShowsRow dimension amount rows) places entries ∧
      driver? columns rows metric = .ok (some (drivers entries)) := by
  obtain ⟨placed, hplaced, hbySize, hlargest⟩ :=
    exists_bySize (driverLabel dimension) amount rows
  have hlabelled : (rows.mapM fun row => do
      let text ← label "Unspecified" (some dimension) row
      return (text, ← (row.cell metric).toNumber) : Outcome (List (String × Number))) =
        .ok (rows.map fun row => (driverLabel dimension row, .int (amount row))) :=
    mapM_eq_ok_map fun row hrow => by
      rw [label_of_isWritable (hlabels row hrow), ok_bind, hamounts row hrow]
      rfl
  have hshown : ∀ p ∈ placed.take driverCount, (do
      return driverLabel dimension p.1 ++ " (" ++ (← (Number.int (amount p.1)).grouped 2) ++ ")" :
        Outcome String).Yields (ShowsRow dimension amount rows p.2) := by
    intro p hp
    have hrow := hplaced p (List.mem_of_mem_take hp)
    have hfits := Value.fits_of_toNumber (hamounts p.1 (List.mem_of_getElem? hrow))
    have hplaces : 2 < Number.digitsLimit := by decide
    obtain ⟨written, hwritten, -⟩ := Number.yields_grouped hplaces hfits
    rw [hwritten]
    exact yields_pure ⟨p.1, written, hrow, hwritten, rfl⟩
  obtain ⟨entries, hentries, hshows⟩ := yields_mapM hshown
  refine ⟨_, entries, hlargest driverCount, List.forall₂_map_left_iff.2 hshows, ?_⟩
  have hsome : rows.isEmpty = false := List.isEmpty_eq_false_iff.2 hrows
  rw [driver?, hsome, if_neg Bool.false_ne_true, hdimension]
  dsimp only
  rw [hlabelled, ok_bind, hbySize, ← List.map_take, List.mapM_map]
  unfold Function.comp
  rw [hentries]
  rfl

end Insight

namespace Insights

variable {columns : List String} {rows rawRows : List Row} {metric : String} {insights : Insights}

/-- The drivers of the metric are the one insight of their kind. -/
theorem mem_bullets_iff_of_driver? {drivers : Insight} (hkind : drivers.kind = .driver)
    (hmetric : IsMetric columns rows metric)
    (hdriver : Insight.driver? columns rows metric = .ok (some drivers))
    (h : build columns rows rawRows = .ok insights) (insight : Insight) :
    insight ∈ insights.bullets ∧ insight.kind = .driver ↔ insight = drivers := by
  have hmem : drivers ∈ insights.bullets := by
    obtain ⟨about, rfl, ⟨other, hother, habout⟩ | ⟨hnone, -⟩⟩ := build_inv h
    · obtain rfl : other = metric := Option.some.inj (hother.1.symm.trans hmetric.1)
      obtain ⟨trend, driver, anomaly, forecast, hfinds, rfl⟩ := ofMetric_inv habout
      obtain rfl : driver = some drivers := Except.ok.inj (hfinds.driver.symm.trans hdriver)
      simp
    · exact absurd ⟨metric, hmetric⟩ hnone
  constructor
  · rintro ⟨hinsight, hdrivers⟩
    exact List.inj_on_of_nodup_map (isArranged_of_build h).nodup_kinds hinsight hmem
      (hdrivers.trans hkind.symm)
  · rintro rfl
    exact ⟨hmem, hkind⟩

end Insights

/-- **Which rows the drivers are.** The drivers of a metric of integers are three rows, or all of
fewer: those that come first by decreasing absolute amount and, among equal ones, in the order of
the rows. Each is shown with its label in the first column that is not the metric, and insights on
the table have this one insight on drivers. -/
theorem Insight.drivers_largest {columns : List String} {rows : List Row}
    {metric dimension : String} {amount : Row → Int} (hrows : rows ≠ [])
    (hdimension : dimension? columns metric = some dimension)
    (hlabels : ∀ row ∈ rows, (row.cell dimension).IsWritable)
    (hamounts : ∀ row ∈ rows, (row.cell metric).toNumber = .ok (.int (amount row))) :
    ∃ places entries,
      IsLargest 3 (rows.map fun row => (amount row).natAbs) places ∧
      List.Forall₂ (ShowsRow dimension amount rows) places entries ∧
      driver? columns rows metric = .ok (some (drivers entries)) ∧
      ∀ rawRows insights, Insights.IsMetric columns rows metric →
        Insights.build columns rows rawRows = .ok insights →
          ∀ insight, insight ∈ insights.bullets ∧ insight.kind = .driver ↔
            insight = drivers entries := by
  obtain ⟨places, entries, hlargest, hshows, hdriver⟩ :=
    driver?_eq hrows hdimension hlabels hamounts
  exact ⟨places, entries, hlargest, hshows, hdriver, fun rawRows insights hmetric hbuild =>
    Insights.mem_bullets_iff_of_driver? rfl hmetric hdriver hbuild⟩

/-- Sales of five shops: two without a label or a number, two below zero. -/
def shopSales : List Row :=
  [.ofList [("shop", .text "North"), ("sales", .int 3)],
    .ofList [("shop", .null), ("sales", .int (-1200))],
    .ofList [("shop", .text "South"), ("sales", .int 1200)],
    .ofList [("shop", .text "East"), ("sales", .text "closed")],
    .ofList [("shop", .text "West"), ("sales", .int (-1200))]]

theorem Insight.drivers_largest_shopSales :
    IsLargest 3 [3, 1200, 1200, 0, 1200] [1, 2, 4] ∧
    driver? ["shop", "sales"] shopSales "sales" =
      .ok (some (drivers ["Unspecified (-1,200)", "South (1,200)", "West (-1,200)"])) ∧
    ∃ insights, Insights.build ["shop", "sales"] shopSales shopSales = .ok insights ∧
      drivers ["Unspecified (-1,200)", "South (1,200)", "West (-1,200)"] ∈ insights.bullets := by
  have hlargest : IsLargest 3 [3, 1200, 1200, 0, 1200] [1, 2, 4] := by
    constructor <;> decide
  obtain ⟨places, entries, hplaces, hshows, hdriver, honly⟩ :=
    @drivers_largest ["shop", "sales"] shopSales "sales" "shop"
      (fun row => (row.cell "sales").written) (by decide) rfl (by decide +kernel)
      (by decide +kernel)
  have hsizes : (shopSales.map fun row => (row.cell "sales").written.natAbs) =
      [3, 1200, 1200, 0, 1200] := by decide +kernel
  obtain rfl := (hsizes ▸ hplaces).unique hlargest
  have hentries : List.Forall₂
      (ShowsRow "shop" (fun row => (row.cell "sales").written) shopSales) [1, 2, 4]
      ["Unspecified (-1,200)", "South (1,200)", "West (-1,200)"] := by
    refine .cons ⟨_, "-1,200", rfl, ?_, ?_⟩ (.cons ⟨_, "1,200", rfl, ?_, ?_⟩
      (.cons ⟨_, "-1,200", rfl, ?_, ?_⟩ .nil)) <;> decide +kernel
  obtain rfl := List.right_unique_forall₂' (rightUnique_showsRow _ _ _) hshows hentries
  have hreadable : IsReadableTable shopSales :=
    isReadableTable_of_isPlain (by decide) (by decide +kernel)
  have hmetric : Insights.IsMetric ["shop", "sales"] shopSales "sales" := by decide +kernel
  obtain ⟨insights, hbuild, -⟩ := Insights.yields_build hreadable ["shop", "sales"] shopSales
  exact ⟨hlargest, hdriver, insights, hbuild,
    ((honly shopSales insights hmetric hbuild _).2 rfl).1⟩

end Reporting
