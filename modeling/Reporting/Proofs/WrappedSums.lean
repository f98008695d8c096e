import Reporting.Proofs.SliceSums

/-!
# Slices that wrap around

The sum of a slice is formed in 64 bits and shown as the double nearest to it. So a slice shows the
double nearest to the exact sum exactly if this sum fits 64 bits with a sign, whatever the sums on
the way to it (`Slices.collapse_wraps`); two sales of together `2 ^ 63` are shown as a loss
(`Slices.exists_slice_wrapped`).
-/

namespace Reporting.Slices

open Double (rounded)

theorem rounded_of_natAbs_eq {n : Int} {k : Nat} (h : n.natAbs = 2 ^ k) (hk : k ≤ 64) :
    rounded n = n := by
  have hbound : 2 ^ k < Double.bound :=
    Nat.lt_of_le_of_lt (Nat.pow_le_pow_right Nat.two_pos hk) (by decide +kernel)
  refine Double.rounded_of_representable ?_
  rw [h]
  exact ⟨hbound, 1, k, by decide, (Nat.one_mul _).symm⟩

/-- What an integer wraps around to has the double of the integer only if that does not wrap. -/
theorem rounded_wrapSigned_eq_iff {n : Int} :
    rounded (wrapSigned n) = rounded n ↔ -2 ^ 63 ≤ n ∧ n < 2 ^ 63 := by
  refine ⟨fun h => ?_, fun h => by rw [wrapSigned_of_mem h]⟩
  obtain ⟨hlow, hhigh⟩ := wrapSigned_mem n
  have hzero : rounded 0 = 0 := by decide +kernel
  have htop : rounded (2 ^ 63) = 2 ^ 63 := rounded_of_natAbs_eq (k := 63) rfl (by decide)
  have hbottom : rounded (-2 ^ 63) = -2 ^ 63 := rounded_of_natAbs_eq (k := 63) rfl (by decide)
  by_contra hout
  obtain hlarge | hlarge | hsmall | hsmall : 2 ^ 64 ≤ n ∨ (2 ^ 63 ≤ n ∧ n < 2 ^ 64) ∨
      n ≤ -2 ^ 64 ∨ (-2 ^ 64 < n ∧ n < -2 ^ 63) := by omega
  · have hpower : rounded (2 ^ 64) = 2 ^ 64 := rounded_of_natAbs_eq (k := 64) rfl (by decide)
    have hn := Double.rounded_mono hlarge
    have hwrapped := Double.rounded_mono hhigh.le
    omega
  · -- The sum came out on the other side of zero.
    have hsign : wrapSigned n ≤ 0 := by
      rw [wrapSigned, Int.bmod_def]
      omega
    have hn := Double.rounded_mono hlarge.1
    have hwrapped := Double.rounded_mono hsign
    omega
  · have hpower : rounded (-2 ^ 64) = -2 ^ 64 := rounded_of_natAbs_eq (k := 64) rfl (by decide)
    have hn := Double.rounded_mono hsmall
    have hwrapped := Double.rounded_mono hlow
    omega
  · have hsign : 0 ≤ wrapSigned n := by
      rw [wrapSigned, Int.bmod_def]
      omega
    have hn := Double.rounded_mono hsmall.2.le
    have hwrapped := Double.rounded_mono hsign
    omega

/-- The sum of the integers that are written in a field of the points of a category. -/
def categorySum (label : Row → String) (field : String) (points : List Row) (k : String) : Int :=
  ((fiber label points k).map fun point => (point.cell field).written).sum

/-- **Slices are sums that wrap around.** Points with integers of 64 bits are collapsed as soon as
their categories have texts. Each category then shows the double nearest to what the exact sum of
its integers wraps around to, which is the one nearest to the sum itself exactly if this fits
64 bits. -/
theorem collapse_wraps {x y : String} {points : List Row}
    (hint : ∀ point ∈ points, ∃ n : Int, point.cell y = .int n ∧ -2 ^ 63 ≤ n ∧ n < 2 ^ 63) :
    (∀ failure, points.mapM (fun point => category (point.cell x)) = .error failure →
      collapse x y points = .error failure) ∧
    ∀ label : Row → String, (∀ point ∈ points, category (point.cell x) = .ok (label point)) →
      collapse x y points = .ok ((firsts (points.map label)).map fun k =>
        slice x y k (rounded (wrapSigned (categorySum label y points k)))) ∧
      ∀ k, rounded (wrapSigned (categorySum label y points k)) =
          rounded (categorySum label y points k) ↔
        -2 ^ 63 ≤ categorySum label y points k ∧ categorySum label y points k < 2 ^ 63 := by
  refine ⟨fun failure hfailure => by rw [collapse, hfailure, Outcome.error_bind],
    fun label hlabel => ⟨?_, fun k => rounded_wrapSigned_eq_iff⟩⟩
  have hamount : ∀ point ∈ points,
      (point.cell y).toNumber = .ok (.int (point.cell y).written) := by
    intro point hpoint
    obtain ⟨n, hn, hmem⟩ := hint point hpoint
    rw [hn, Value.written_int]
    exact Value.toNumber_int (Number.fits_int (by omega))
  have hrange : ∀ point ∈ points,
      -2 ^ 63 ≤ (point.cell y).written ∧ (point.cell y).written < 2 ^ 63 := by
    intro point hpoint
    obtain ⟨n, hn, hmem⟩ := hint point hpoint
    rwa [hn, Value.written_int]
  have hcollapse : collapse x y (points.map id) = _ := collapse_signed hlabel hamount hrange
  rwa [List.map_id] at hcollapse

/-- Points of regions and their sales. -/
def salesPoints (points : List (Value × Int)) : List Row :=
  points.map fun point => .ofList [("region", point.1), ("sales", .int point.2)]

/-- Sales of two regions and of none. One region is back within 64 bits at the end. -/
def regionalSales : List Row := salesPoints
  [(.text "north", 2 ^ 63 - 1), (.null, 7), (.text "south", 2 ^ 63 - 1), (.text "north", 1),
    (.text "south", 1), (.text "south", -2 ^ 10)]

theorem collapse_wraps_regional :
    (∀ point ∈ regionalSales, ∃ n : Int, point.cell "sales" = .int n ∧
      -2 ^ 63 ≤ n ∧ n < 2 ^ 63) ∧
    collapse "region" "sales" regionalSales = .ok [slice "region" "sales" "north" (-2 ^ 63),
      slice "region" "sales" unspecified 7, slice "region" "sales" "south" (2 ^ 63 - 2 ^ 10)] := by
  have hint : ∀ point ∈ regionalSales, ∃ n : Int, point.cell "sales" = .int n ∧
      -2 ^ 63 ≤ n ∧ n < 2 ^ 63 := by
    have hcells : ∀ point ∈ regionalSales, point.cell "sales" = .int (point.cell "sales").written ∧
        -2 ^ 63 ≤ (point.cell "sales").written ∧ (point.cell "sales").written < 2 ^ 63 := by
      decide +kernel
    exact fun point hpoint => ⟨_, hcells point hpoint⟩
  let shown (point : Row) : String := (category (point.cell "region")).toOption.getD ""
  obtain ⟨hslices, -⟩ := (collapse_wraps (x := "region") hint).2 shown (by decide +kernel)
  exact ⟨hint, hslices.trans (by decide +kernel)⟩

/-- Two sales in the range of 64 bits whose sum is not. -/
def twoSales : List Row := salesPoints [(.text "north", 2 ^ 63 - 1), (.text "north", 1)]

/-- Slices do not always show the double nearest to the exact sum. -/
theorem exists_slice_wrapped :
    ¬ ∀ (x y : String) (points : List Row) (label : Row → String),
      (∀ point ∈ points, category (point.cell x) = .ok (label point)) →
      (∀ point ∈ points, ∃ n : Int, point.cell y = .int n ∧ -2 ^ 63 ≤ n ∧ n < 2 ^ 63) →
      collapse x y points = .ok ((firsts (points.map label)).map fun k =>
        slice x y k (rounded (categorySum label y points k))) := by
  intro h
  have hcells : ∀ point ∈ twoSales, point.cell "sales" = .int (point.cell "sales").written ∧
      -2 ^ 63 ≤ (point.cell "sales").written ∧ (point.cell "sales").written < 2 ^ 63 := by
    decide +kernel
  have hclaimed := h "region" "sales" twoSales (fun _ => "north") (by decide +kernel)
    fun point hpoint => ⟨_, hcells point hpoint⟩
  have hshown : collapse "region" "sales" twoSales =
      .ok [slice "region" "sales" "north" (-2 ^ 63)] := by decide +kernel
  have hexact : (firsts (twoSales.map fun _ => "north")).map (fun k => slice "region" "sales" k
      (rounded (categorySum (fun _ => "north") "sales" twoSales k))) =
      [slice "region" "sales" "north" (2 ^ 63)] := by decide +kernel
  rw [hshown, hexact] at hclaimed
  revert hclaimed
  decide +kernel

end Reporting.Slices
