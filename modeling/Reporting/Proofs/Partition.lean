import Mathlib.Algebra.BigOperators.Group.List.Basic
import Mathlib.Algebra.Order.Group.Int
import Mathlib.Data.List.Nodup
import Mathlib.Data.List.Perm.Basic
import Reporting.Basic
import Reporting.Distinct

/-!
# Partition by a key

The items with one key are a fiber. The fibers of distinct keys that cover a list make up the list
(`flatMap_fiber_perm`). A second key that the first one determines is coarser: its fibers are made
up of fibers of the first (`flatMap_fiber_coarsen`), and start where the first of those does
(`head?_fiber_coarsen`).
-/

namespace Reporting

variable {α κ : Type} [DecidableEq κ]

/-- The items with a key, in order. -/
def fiber (key : α → κ) (items : List α) (k : κ) : List α := items.filter fun a => key a = k

variable {key : α → κ} {items : List α} {k : κ}

@[simp] theorem mem_fiber {a : α} : a ∈ fiber key items k ↔ a ∈ items ∧ key a = k := by
  simp [fiber]

theorem fiber_map {β : Type} (f : β → α) (bs : List β) :
    fiber key (bs.map f) k = (fiber (key ∘ f) bs k).map f := by
  rw [fiber, List.filter_map]
  rfl

theorem fiber_congr {key' : α → κ} (h : ∀ a ∈ items, key a = key' a) :
    fiber key items k = fiber key' items k :=
  List.filter_congr fun a ha => by rw [h a ha]

theorem fiber_ne_nil (hk : k ∈ firsts (items.map key)) : fiber key items k ≠ [] := by
  obtain ⟨a, ha, rfl⟩ := List.mem_map.1 (mem_firsts.1 hk)
  exact List.ne_nil_of_mem (mem_fiber.2 ⟨ha, rfl⟩)

/-- A fiber starts with one of its members. -/
theorem headD_fiber_mem (hk : k ∈ firsts (items.map key)) (d : α) :
    (fiber key items k).headD d ∈ fiber key items k := by
  obtain ⟨first, others, hfiber⟩ := List.exists_cons_of_ne_nil (fiber_ne_nil hk)
  rw [hfiber]
  exact List.mem_cons_self

/-- Keys made from the keys of a list, so that they tell the same ones apart. -/
theorem firsts_map_of_injOn {μ : Type} [DecidableEq μ] {f : κ → μ} {keys : List κ}
    (hf : ∀ a ∈ keys, ∀ b ∈ keys, f a = f b → a = b) :
    firsts (keys.map f) = (firsts keys).map f := by
  have hdistinct : ((firsts keys).map f).Nodup :=
    (nodup_firsts keys).map_on fun a ha b hb =>
      hf a (mem_firsts.1 ha) b (mem_firsts.1 hb)
  rw [← firsts_map_firsts, firsts_of_nodup hdistinct]

theorem fiber_comp {μ : Type} [DecidableEq μ] {f : κ → μ}
    (hf : ∀ a ∈ items, f (key a) = f k → key a = k) :
    fiber (f ∘ key) items (f k) = fiber key items k :=
  List.filter_congr fun a ha => by
    rw [decide_eq_decide]
    exact ⟨hf a ha, congrArg f⟩

section Kept

variable {p : α → Bool} {q : κ → Bool} (h : ∀ a ∈ items, p a = q (key a))

include h

/-- The keys of the items that are kept for their keys. -/
theorem firsts_map_filter :
    firsts ((items.filter p).map key) = (firsts (items.map key)).filter q := by
  rw [filter_firsts, List.filter_map]
  exact congrArg (fun kept => firsts (kept.map key)) (List.filter_congr fun a ha => h a ha)

/-- A fiber of the items that are kept for their keys is kept as a whole. -/
theorem fiber_filter (hk : q k = true) : fiber key (items.filter p) k = fiber key items k := by
  rw [fiber, fiber, List.filter_filter]
  refine List.filter_congr fun a ha => ?_
  by_cases hak : key a = k
  · simp [hak, h a ha, hk]
  · simp [hak]

end Kept

/-- **The fibers of distinct keys make up a list that they cover.** -/
theorem flatMap_fiber_perm {keys : List κ} (hkeys : keys.Nodup)
    (hcover : ∀ a ∈ items, key a ∈ keys) :
    (keys.flatMap (fiber key items)).Perm items := by
  induction keys generalizing items with
  | nil =>
    obtain rfl : items = [] := List.eq_nil_iff_forall_not_mem.2 fun a ha => by
      simpa using hcover a ha
    exact .nil
  | cons k keys ih =>
    obtain ⟨hk, hkeys⟩ := List.nodup_cons.1 hkeys
    have hothers : ∀ a ∈ items.filter (fun a => !decide (key a = k)), key a ∈ keys := by
      intro a ha
      obtain ⟨ha, hne⟩ := List.mem_filter.1 ha
      exact (List.mem_cons.1 (hcover a ha)).resolve_left (by simpa using hne)
    have hfibers : ∀ k' ∈ keys,
        fiber key (items.filter fun a => !decide (key a = k)) k' = fiber key items k' := by
      intro k' hk'
      have hne : k' ≠ k := fun e => hk (e ▸ hk')
      rw [fiber, fiber, List.filter_filter]
      refine List.filter_congr fun a _ => ?_
      by_cases ha : key a = k' <;> simp [ha, hne]
    have hrest := ih hkeys hothers
    rw [List.flatMap_congr hfibers] at hrest
    exact (hrest.append_left _).trans (List.filter_append_perm (key · = k) items)

theorem flatMap_fiber_firsts (key : α → κ) (items : List α) :
    ((firsts (items.map key)).flatMap (fiber key items)).Perm items :=
  flatMap_fiber_perm (nodup_firsts _) fun _ ha => mem_firsts.2 (List.mem_map_of_mem ha)

/-- Weights add up over fibers. -/
theorem sum_map_fiber (key : α → κ) (items : List α) (weight : α → Int) :
    ((firsts (items.map key)).map fun k => ((fiber key items k).map weight).sum).sum =
      (items.map weight).sum := by
  have hsum := ((flatMap_fiber_firsts key items).map weight).sum_eq
  rw [List.map_flatMap, List.flatMap_def, List.sum_flatten, List.map_map] at hsum
  exact hsum

/-! ## Coarser keys -/

section Coarser

variable {μ : Type} [DecidableEq μ] {coarse : α → μ} {part : κ → μ} {c : μ}
  (hpart : ∀ a ∈ items, coarse a = part (key a))

include hpart

theorem firsts_map_part :
    firsts ((firsts (items.map key)).map part) = firsts (items.map coarse) := by
  rw [firsts_map_firsts, List.map_map]
  exact congrArg firsts (List.map_congr_left fun a ha => (hpart a ha).symm)

/-- A coarse fiber is made up of the fibers of its part of the keys. -/
theorem flatMap_fiber_coarsen :
    ((fiber part (firsts (items.map key)) c).flatMap (fiber key items)).Perm
      (fiber coarse items c) := by
  have hkept : ∀ a ∈ items, decide (coarse a = c) = decide (part (key a) = c) :=
    fun a ha => by rw [hpart a ha]
  have hfibers : ∀ k ∈ fiber part (firsts (items.map key)) c,
      fiber key items k = fiber key (fiber coarse items c) k := fun k hk =>
    (fiber_filter (q := (part · = c)) hkept (decide_eq_true (mem_fiber.1 hk).2)).symm
  rw [List.flatMap_congr hfibers]
  refine flatMap_fiber_perm ((nodup_firsts _).filter _) fun a ha => ?_
  obtain ⟨hmem, rfl⟩ := mem_fiber.1 ha
  exact mem_fiber.2 ⟨mem_firsts.2 (List.mem_map_of_mem hmem), (hpart a hmem).symm⟩

/-- A coarse fiber starts where the first fiber of its part of the keys does. -/
theorem head?_fiber_coarsen :
    (fiber part (firsts (items.map key)) c).head?.bind (fun k => (fiber key items k).head?) =
      (fiber coarse items c).head? := by
  have hkept : ∀ a ∈ items, decide (coarse a = c) = decide (part (key a) = c) :=
    fun a ha => by rw [hpart a ha]
  have hkeys : fiber part (firsts (items.map key)) c =
      firsts ((fiber coarse items c).map key) := (firsts_map_filter hkept).symm
  rw [hkeys, head?_firsts, List.head?_map]
  cases hfirst : (fiber coarse items c).head? with
  | none => rfl
  | some a =>
    -- No item before `a` has the coarse key of `a`, so none has its key.
    rw [fiber, List.head?_filter, List.find?_eq_some_iff_append] at hfirst
    obtain ⟨ha, before, after, rfl, hbefore⟩ := hfirst
    rw [Option.map_some, Option.bind_some, fiber, List.head?_filter, List.find?_eq_some_iff_append]
    refine ⟨by simp, before, after, rfl, fun b hb => ?_⟩
    have hb' := hbefore b hb
    rw [hpart b (by simp [hb])] at hb'
    rw [hpart a (by simp)] at ha
    simp only [decide_eq_true_eq] at ha
    by_cases hab : key b = key a
    · simp [hab, ha] at hb'
    · simp [hab]

end Coarser

end Reporting
