/-!
# First appearances

`firsts` keeps the first of equal items, in order: the keys of a grouping, the columns of a table
and the datasets of a report are listed this way. It commutes with filters (`filter_firsts`), and
before a function whose values are listed the same way it makes no difference
(`firsts_map_firsts`).
-/

namespace Reporting

variable {α β : Type} [DecidableEq α] [DecidableEq β]

/-- The items without those that repeat an earlier one. -/
def firsts : List α → List α
  | [] => []
  | a :: rest => a :: (firsts rest).filter (· ≠ a)

@[simp] theorem mem_firsts {a : α} {items : List α} : a ∈ firsts items ↔ a ∈ items := by
  induction items with
  | nil => simp [firsts]
  | cons b rest ih =>
    by_cases h : a = b <;> simp [firsts, ih, h]

theorem nodup_firsts (items : List α) : (firsts items).Nodup := by
  induction items with
  | nil => simp [firsts]
  | cons b rest ih =>
    rw [firsts, List.nodup_cons]
    exact ⟨by simp, ih.sublist List.filter_sublist⟩

theorem firsts_sublist (items : List α) : (firsts items).Sublist items := by
  induction items with
  | nil => exact .slnil
  | cons b rest ih => exact (List.filter_sublist.trans ih).cons_cons b

theorem firsts_of_nodup {items : List α} (h : items.Nodup) : firsts items = items := by
  induction items with
  | nil => rfl
  | cons a rest ih =>
    obtain ⟨ha, hrest⟩ := List.nodup_cons.1 h
    rw [firsts, ih hrest, List.filter_eq_self.2]
    intro b hb
    exact decide_eq_true fun e => ha (e ▸ hb)

theorem head?_firsts (items : List α) : (firsts items).head? = items.head? := by
  cases items <;> rfl

/-- The order of the items makes a difference to the order alone. -/
theorem firsts_perm {items others : List α} (h : items.Perm others) :
    (firsts items).Perm (firsts others) :=
  (List.perm_ext_iff_of_nodup (nodup_firsts _) (nodup_firsts _)).2 fun a => by
    rw [mem_firsts, mem_firsts, h.mem_iff]

theorem filter_firsts (p : α → Bool) (items : List α) :
    (firsts items).filter p = firsts (items.filter p) := by
  induction items with
  | nil => rfl
  | cons a rest ih =>
    rw [firsts, List.filter_cons, List.filter_cons]
    split
    · rw [firsts, ← ih, List.filter_filter, List.filter_filter]
      simp only [Bool.and_comm]
    · next h =>
      rw [← ih, List.filter_filter]
      refine List.filter_congr fun b _ => ?_
      by_cases hb : b = a <;> simp [hb, h]

/-- An item that has come before makes no difference. -/
theorem firsts_append_cons_of_mem {a : α} {before : List α} (h : a ∈ before) (after : List α) :
    firsts (before ++ a :: after) = firsts (before ++ after) := by
  induction before with
  | nil => cases h
  | cons b rest ih =>
    rw [List.cons_append, List.cons_append, firsts, firsts]
    rcases List.mem_cons.1 h with rfl | h
    · rw [filter_firsts, filter_firsts]
      simp
    · rw [ih h]

theorem firsts_firsts_append (before after : List α) :
    firsts (firsts before ++ after) = firsts (before ++ after) := by
  induction before with
  | nil => rfl
  | cons a rest ih =>
    -- Behind `a` both sides are filtered anyway, so the filter inside makes no difference.
    have hdrop : ((firsts rest).filter (· ≠ a) ++ after).filter (· ≠ a) =
        (firsts rest ++ after).filter (· ≠ a) := by
      rw [List.filter_append, List.filter_append, List.filter_filter]
      simp
    rw [firsts, List.cons_append, List.cons_append, firsts, firsts, filter_firsts, hdrop,
      ← filter_firsts, ih]

theorem firsts_append_firsts (before after : List α) :
    firsts (before ++ firsts after) = firsts (before ++ after) := by
  induction before with
  | nil => exact firsts_of_nodup (nodup_firsts after)
  | cons a rest ih => rw [List.cons_append, List.cons_append, firsts, firsts, ih]

omit [DecidableEq α] in
/-- What keeps items or drops them is a filter. -/
theorem filterMap_eq_filter_isSome {keep : α → Option α} {items : List α}
    (h : ∀ a ∈ items, ∀ b, keep a = some b → b = a) :
    items.filterMap keep = items.filter fun a => (keep a).isSome := by
  induction items with
  | nil => rfl
  | cons a rest ih =>
    rw [List.filterMap_cons, List.filter_cons, ih fun b hb => h b (List.mem_cons_of_mem a hb)]
    cases hkeep : keep a with
    | none => rfl
    | some b =>
      rw [h a List.mem_cons_self b hkeep]
      rfl

theorem filterMap_firsts {keep : α → Option α} {items : List α}
    (h : ∀ a ∈ items, ∀ b, keep a = some b → b = a) :
    (firsts items).filterMap keep = firsts (items.filterMap keep) := by
  rw [filterMap_eq_filter_isSome fun a ha => h a (mem_firsts.1 ha), filterMap_eq_filter_isSome h,
    filter_firsts]

theorem firsts_map_firsts (f : α → β) (items : List α) :
    firsts ((firsts items).map f) = firsts (items.map f) := by
  induction items with
  | nil => rfl
  | cons a rest ih =>
    -- What repeats `a` has the image of `a`, so it is dropped behind the image in any case.
    have hdrop : (rest.filter (· ≠ a)).filter (f · ≠ f a) = rest.filter (f · ≠ f a) := by
      rw [List.filter_filter]
      refine List.filter_congr fun b _ => ?_
      by_cases hb : b = a <;> simp [hb]
    rw [firsts, List.map_cons, List.map_cons, firsts, firsts, ← ih, filter_firsts, filter_firsts,
      filter_firsts, List.filter_map, List.filter_map, filter_firsts, filter_firsts]
    exact congrArg (fun kept => f a :: firsts ((firsts kept).map f)) hdrop

end Reporting
