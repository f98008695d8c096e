import Mathlib.Data.List.Pairwise
import Mathlib.Data.List.Range
import Reporting.Sort

/-!
# Stable sorting

A stable sort orders a list, and among items that compare as equal it keeps whatever held of earlier
and later ones (`pairwise_mergeSort_of_pairwise`), so that any items that tie stay as they are
(`filter_mergeSort`). Rows are sorted unless two of them cannot be compared
(`SortRule.firstFailure?_eq_none_iff`).
-/

namespace Reporting

theorem isLE_or_isLE {α : Type} {cmp : α → α → Ordering} [Std.OrientedCmp cmp] (a b : α) :
    ((cmp a b).isLE || (cmp b a).isLE) = true := by
  have hswap : cmp b a = (cmp a b).swap := Std.OrientedCmp.eq_swap
  rw [hswap]
  cases cmp a b <;> rfl

/-- **Sorting is stable**: among items that compare as equal, what held of earlier and later ones
before holds of them behind the sort. -/
theorem pairwise_mergeSort_of_pairwise {α : Type} {le : α → α → Bool} {R : α → α → Prop}
    (trans : ∀ a b c, le a b = true → le b c = true → le a c = true)
    (total : ∀ a b, (le a b || le b a) = true) {items : List α} (h : items.Pairwise R) :
    (items.mergeSort le).Pairwise fun a b => le a b = true ∧ (le b a = true → R a b) := by
  -- The items are sorted together with their places, which break the ties.
  have hsorted := List.pairwise_mergeSort (List.zipIdxLE_trans trans) (List.zipIdxLE_total total)
    items.zipIdx
  have hperm := List.mergeSort_perm items.zipIdx (List.zipIdxLE le)
  have hplaces : (items.zipIdx.mergeSort (List.zipIdxLE le)).Pairwise fun p q => p.2 ≠ q.2 := by
    refine (hperm.pairwise_iff fun hne => hne.symm).2 (List.pairwise_map.1 ?_)
    rw [List.zipIdx_map_snd]
    exact List.nodup_range'
  rw [← List.mergeSort_zipIdx, List.pairwise_map]
  refine (hsorted.and hplaces).imp_of_mem ?_
  rintro ⟨a, i⟩ ⟨b, j⟩ ha hb ⟨hle, hne⟩
  obtain ⟨hi, hitem⟩ := List.mem_zipIdx' (hperm.mem_iff.1 ha)
  obtain ⟨hj, hother⟩ := List.mem_zipIdx' (hperm.mem_iff.1 hb)
  dsimp only at hi hj hitem hother hne ⊢
  simp only [List.zipIdxLE] at hle
  split at hle
  · next hab =>
    refine ⟨hab, fun hba => ?_⟩
    rw [if_pos hba, decide_eq_true_iff] at hle
    rw [hitem, hother]
    exact List.pairwise_iff_getElem.1 h i j hi hj (by omega)
  · cases hle

/-- Sorted items together with the places they had, where the place breaks ties. -/
theorem exists_placed_mergeSort {α : Type} {le : α → α → Bool}
    (trans : ∀ a b c, le a b = true → le b c = true → le a c = true)
    (total : ∀ a b, (le a b || le b a) = true) (items : List α) :
    ∃ placed : List (α × Nat), placed.Perm items.zipIdx ∧
      placed.map Prod.fst = items.mergeSort le ∧
      placed.Pairwise fun p q => le p.1 q.1 = true ∧ (le q.1 p.1 = true → p.2 < q.2) := by
  have hplaces : items.zipIdx.Pairwise fun p q => p.2 < q.2 := by
    refine List.pairwise_map.1 ?_
    rw [List.zipIdx_map_snd]
    exact List.pairwise_lt_range'
  refine ⟨items.zipIdx.mergeSort fun p q => le p.1 q.1, List.mergeSort_perm _ _, ?_,
    pairwise_mergeSort_of_pairwise (fun p q r => trans p.1 q.1 r.1) (fun p q => total p.1 q.1)
      hplaces⟩
  have hfirsts : items.zipIdx.map Prod.fst = items := List.zipIdx_map_fst 0 items
  conv_rhs => rw [← hfirsts]
  exact List.map_mergeSort fun p _ q _ => rfl

namespace SortRule

open Value (Comparable)

theorem failure?_eq_some {outcome : Outcome Ordering} {failure : Failure} :
    failure? outcome = some failure ↔ outcome = .error failure := by
  cases outcome <;> simp [failure?]

theorem failure?_eq_none {outcome : Outcome Ordering} :
    failure? outcome = none ↔ ∃ order, outcome = .ok order := by
  cases outcome <;> simp [failure?]

/-- A sort fails where a pair of keys cannot be compared. -/
theorem exists_of_firstFailure? {directions : List Direction} {keys : List Key}
    {failure : Failure} (h : firstFailure? directions keys = some failure) :
    ∃ a ∈ keys, ∃ b ∈ keys, compareKeys directions a b = .error failure := by
  induction keys with
  | nil => cases h
  | cons a rest ih =>
    rw [firstFailure?] at h
    split at h
    · next first hfound =>
      obtain rfl := Option.some.inj h
      obtain ⟨b, hb, hfails⟩ := List.exists_of_findSome?_eq_some hfound
      exact ⟨a, List.mem_cons_self, b, List.mem_cons_of_mem a hb, failure?_eq_some.1 hfails⟩
    · obtain ⟨b, hb, c, hc, hfails⟩ := ih h
      exact ⟨b, List.mem_cons_of_mem a hb, c, List.mem_cons_of_mem a hc, hfails⟩

theorem firstFailure?_eq_none_iff {directions : List Direction} {keys : List Key} :
    firstFailure? directions keys = none ↔
      keys.Pairwise fun a b => ∃ order, compareKeys directions a b = .ok order := by
  induction keys with
  | nil => exact iff_of_true rfl .nil
  | cons a rest ih =>
    rw [List.pairwise_cons, ← ih, firstFailure?]
    split
    · next failure hfound =>
      obtain ⟨b, hb, hfails⟩ := List.exists_of_findSome?_eq_some hfound
      refine iff_of_false (Option.some_ne_none failure) fun h => ?_
      rw [failure?_eq_none.2 (h.1 b hb)] at hfails
      cases hfails
    · next hnone =>
      rw [List.findSome?_eq_none_iff] at hnone
      exact (and_iff_right fun b hb => failure?_eq_none.1 (hnone b hb)).symm

theorem keys_keyed (rules : List SortRule) (rows : List Row) :
    (rows.map fun row => (key rules row, row)).map Prod.fst = rows.map (key rules) := by
  rw [List.map_map]
  rfl

end SortRule

end Reporting
