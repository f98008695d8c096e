import Mathlib.Data.List.Forall2
import Reporting.Basic

/-!
# Steps that may fail

Runs are made of steps that may fail. Two steps in sequence succeed when both do
(`Outcome.bind_eq_ok`), and a step taken at each item of a list succeeds when it does at every item
(`Outcome.mapM_eq_ok`); the lemmas after that compare two such traversals of one list. A step that
cannot fail is one that yields a result with some property (`Outcome.Yields`), from which the next
step goes on.
-/

namespace Reporting.Outcome

variable {α β : Type}

@[simp] theorem ok_bind (a : α) (f : α → Outcome β) : (Except.ok a >>= f) = f a := rfl

@[simp] theorem error_bind (failure : Failure) (f : α → Outcome β) :
    (Except.error failure >>= f) = .error failure := rfl

theorem bind_eq_ok {x : Outcome α} {f : α → Outcome β} {b : β} :
    (x >>= f) = .ok b ↔ ∃ a, x = .ok a ∧ f a = .ok b := by
  cases x with
  | error failure => simp
  | ok a => simp

theorem pure_eq_ok {a b : α} : (pure a : Outcome α) = .ok b ↔ a = b :=
  Except.ok.injEq a b ▸ Iff.rfl

theorem map_eq_ok {x : Outcome α} {f : α → β} {b : β} :
    x.map f = .ok b ↔ ∃ a, x = .ok a ∧ f a = b := by
  cases x with
  | error failure => simp [Except.map]
  | ok a => simp [Except.map]

theorem bind_some_eq_ok {x : Outcome α} {f : α → β} {b : β} :
    (x >>= fun a => (pure (some (f a)) : Outcome (Option β))) = .ok (some b) ↔
      ∃ a, x = .ok a ∧ f a = b := by
  simp only [bind_eq_ok, pure_eq_ok, Option.some.injEq]

/-! ## Traversals -/

theorem exists_of_mem_right {R : α → β → Prop} {as : List α} {bs : List β}
    (h : List.Forall₂ R as bs) {b : β} (hb : b ∈ bs) : ∃ a ∈ as, R a b := by
  induction h with
  | nil => cases hb
  | cons hfirst _ ih =>
    rcases List.mem_cons.1 hb with rfl | hb
    · exact ⟨_, List.mem_cons_self, hfirst⟩
    · obtain ⟨a, ha, hab⟩ := ih hb
      exact ⟨a, List.mem_cons_of_mem _ ha, hab⟩

variable {f g : α → Outcome β} {xs : List α} {ys : List β}

theorem mapM_eq_ok : xs.mapM f = .ok ys ↔ List.Forall₂ (fun x y => f x = .ok y) xs ys := by
  induction xs generalizing ys with
  | nil => rw [List.mapM_nil, pure_eq_ok, List.forall₂_nil_left_iff, eq_comm]
  | cons x xs ih =>
    rw [List.mapM_cons, List.forall₂_cons_left_iff]
    constructor
    · intro h
      obtain ⟨y, hy, h⟩ := bind_eq_ok.1 h
      obtain ⟨rest, hrest, h⟩ := bind_eq_ok.1 h
      exact ⟨y, rest, hy, ih.1 hrest, (pure_eq_ok.1 h).symm⟩
    · rintro ⟨y, rest, hy, hrest, rfl⟩
      rw [hy, ok_bind, ih.2 hrest, ok_bind]
      rfl

/-- A step with a known result at each item. -/
theorem mapM_eq_ok_map {value : α → β} (h : ∀ x ∈ xs, f x = .ok (value x)) :
    xs.mapM f = .ok (xs.map value) :=
  mapM_eq_ok.2 (List.forall₂_map_right_iff.2 (List.forall₂_same.2 h))

/-- The results of a traversal beside its items. -/
theorem forall₂_of_mapM {R : α → β → Prop} (h : ∀ x ∈ xs, ∀ y, f x = .ok y → R x y)
    (hf : xs.mapM f = .ok ys) : List.Forall₂ R xs ys := by
  have hall := mapM_eq_ok.1 hf
  clear hf
  induction hall with
  | nil => exact .nil
  | cons hy _ ih => exact .cons (h _ (by simp) _ hy) (ih fun x hx => h x (by simp [hx]))

/-- The results of a step that can only have the known ones. -/
theorem eq_map_of_mapM {value : α → β} (h : ∀ x ∈ xs, ∀ y, f x = .ok y → y = value x)
    (hf : xs.mapM f = .ok ys) : ys = xs.map value := by
  have hall : List.Forall₂ (· = ·) (xs.map value) ys :=
    List.forall₂_map_left_iff.2 (forall₂_of_mapM (fun x hx y hy => (h x hx y hy).symm) hf)
  rw [List.forall₂_eq_eq_eq] at hall
  exact hall.symm

theorem exists_of_mem_mapM (hf : xs.mapM f = .ok ys) {x : α} (hx : x ∈ xs) :
    ∃ y, f x = .ok y := by
  have hall := mapM_eq_ok.1 hf
  clear hf
  induction hall with
  | nil => simp at hx
  | cons hy _ ih =>
    rcases List.mem_cons.1 hx with rfl | hx
    · exact ⟨_, hy⟩
    · exact ih hx

theorem exists_source_of_mapM (hf : xs.mapM f = .ok ys) {y : β} (hy : y ∈ ys) :
    ∃ x ∈ xs, f x = .ok y :=
  exists_of_mem_right (mapM_eq_ok.1 hf) hy

/-- The result of a step that is taken at an item stands where the item does. -/
theorem exists_getElem?_of_mapM (hf : xs.mapM f = .ok ys) {i : Nat} {x : α} (hx : xs[i]? = some x) :
    ∃ y, ys[i]? = some y ∧ f x = .ok y := by
  have hall := mapM_eq_ok.1 hf
  clear hf
  induction hall generalizing i with
  | nil => cases hx
  | cons hy _ ih =>
    cases i with
    | zero => exact ⟨_, rfl, Option.some.inj hx ▸ hy⟩
    | succ i => exact ih hx

theorem exists_mapM_iff : (∃ ys, xs.mapM f = .ok ys) ↔ ∀ x ∈ xs, ∃ y, f x = .ok y := by
  refine ⟨fun ⟨ys, hys⟩ x hx => exists_of_mem_mapM hys hx, fun h => ?_⟩
  induction xs with
  | nil => exact ⟨[], rfl⟩
  | cons x xs ih =>
    obtain ⟨y, hy⟩ := h x (by simp)
    obtain ⟨ys, hys⟩ := ih fun z hz => h z (by simp [hz])
    exact ⟨y :: ys, mapM_eq_ok.2 (.cons hy (mapM_eq_ok.1 hys))⟩

/-- The results of a traversal as a function of the items. -/
theorem exists_map_of_mapM [Inhabited β] (hf : xs.mapM f = .ok ys) :
    ∃ value : α → β, ys = xs.map value ∧ ∀ x ∈ xs, f x = .ok (value x) := by
  refine ⟨fun x => (f x).toOption.getD default, eq_map_of_mapM (fun x _ y hy => ?_) hf,
    fun x hx => ?_⟩
  · simp [hy, Except.toOption]
  · obtain ⟨y, hy⟩ := exists_of_mem_mapM hf hx
    simp [hy, Except.toOption]

theorem mapM_congr (h : ∀ x ∈ xs, f x = g x) : xs.mapM f = xs.mapM g := by
  induction xs with
  | nil => rfl
  | cons x xs ih =>
    rw [List.mapM_cons, List.mapM_cons, h x (by simp), ih fun y hy => h y (by simp [hy])]

/-- A step that agrees with another one wherever that one succeeds. -/
theorem mapM_mono (h : ∀ x ∈ xs, ∀ y, f x = .ok y → g x = .ok y) (hf : xs.mapM f = .ok ys) :
    xs.mapM g = .ok ys := by
  refine mapM_congr (fun x hx => ?_) ▸ hf
  obtain ⟨y, hy⟩ := exists_of_mem_mapM hf hx
  rw [hy, h x hx y hy]

/-- A traversal that fails does so at one of the items. -/
theorem exists_of_mapM_eq_error {failure : Failure} (hf : xs.mapM f = .error failure) :
    ∃ x ∈ xs, f x = .error failure := by
  induction xs with
  | nil => cases hf
  | cons x rest ih =>
    rw [List.mapM_cons] at hf
    cases hx : f x with
    | error other =>
      rw [hx, error_bind] at hf
      obtain rfl := Except.error.inj hf
      exact ⟨x, List.mem_cons_self, hx⟩
    | ok y =>
      cases hrest : rest.mapM f with
      | error other =>
        rw [hx, hrest, ok_bind, error_bind] at hf
        obtain rfl := Except.error.inj hf
        obtain ⟨z, hz, hfails⟩ := ih hrest
        exact ⟨z, List.mem_cons_of_mem x hz, hfails⟩
      | ok ys =>
        rw [hx, hrest] at hf
        cases hf

/-- A traversal that can fail in one way only, and has no result at some item. -/
theorem mapM_eq_error {failure : Failure}
    (h : ∀ x ∈ xs, ∀ other, f x = .error other → other = failure)
    (hfails : ∃ x ∈ xs, ∀ y, f x ≠ .ok y) : xs.mapM f = .error failure := by
  cases hf : xs.mapM f with
  | error other =>
    obtain ⟨x, hx, hother⟩ := exists_of_mapM_eq_error hf
    rw [h x hx other hother]
  | ok ys =>
    obtain ⟨x, hx, hnone⟩ := hfails
    obtain ⟨y, hy⟩ := exists_of_mem_mapM hf hx
    exact absurd hy (hnone y)

theorem length_of_mapM (hf : xs.mapM f = .ok ys) : ys.length = xs.length :=
  (mapM_eq_ok.1 hf).length_eq.symm

/-! ## Steps that do not fail -/

/-- Whether an outcome is a result, and one with a property. -/
def Yields (x : Outcome α) (P : α → Prop) : Prop := ∃ a, x = .ok a ∧ P a

section Yields

variable {P : α → Prop} {Q : β → Prop}

theorem yields_ok {a : α} (h : P a) : Yields (.ok a) P := ⟨a, rfl, h⟩

theorem yields_pure {a : α} (h : P a) : Yields (pure a) P := ⟨a, rfl, h⟩

theorem yields_of_toBool {x : Outcome α} (h : x.toBool = true) : x.Yields fun _ => True := by
  cases x with
  | error failure => cases h
  | ok a => exact yields_ok trivial

/-- Whether each result of an outcome has a property. -/
instance decidableForallResult {P : α → Prop} [DecidablePred P] :
    (x : Outcome α) → Decidable (∀ a, x = .ok a → P a)
  | .ok a => decidable_of_iff (P a) ⟨fun h _ heq => Except.ok.inj heq ▸ h, fun h => h a rfl⟩
  | .error _ => isTrue nofun

theorem Yields.imp {x : Outcome α} {R : α → Prop} (h : x.Yields P) (hR : ∀ a, P a → R a) :
    x.Yields R := by
  obtain ⟨a, ha, hP⟩ := h
  exact ⟨a, ha, hR a hP⟩

theorem Yields.and {x : Outcome α} {R : α → Prop} (h : x.Yields P) (hR : ∀ a, x = .ok a → R a) :
    x.Yields fun a => P a ∧ R a := by
  obtain ⟨a, ha, hP⟩ := h
  exact ⟨a, ha, hP, hR a ha⟩

theorem Yields.with_eq {x : Outcome α} (h : x.Yields P) : x.Yields fun a => P a ∧ x = .ok a :=
  h.and fun _ ha => ha

theorem Yields.bind {x : Outcome α} {f : α → Outcome β} (hx : x.Yields P)
    (hf : ∀ a, P a → (f a).Yields Q) : (x >>= f).Yields Q := by
  obtain ⟨a, rfl, ha⟩ := hx
  exact hf a ha

theorem Yields.map {x : Outcome α} {f : α → β} (hx : x.Yields P) (hf : ∀ a, P a → Q (f a)) :
    (x >>= fun a => pure (f a)).Yields Q :=
  hx.bind fun a ha => yields_pure (hf a ha)

theorem yields_mapM {f : α → Outcome β} {as : List α} {R : α → β → Prop}
    (h : ∀ a ∈ as, (f a).Yields (R a)) : (as.mapM f).Yields (List.Forall₂ R as) := by
  induction as with
  | nil => exact yields_pure .nil
  | cons a rest ih =>
    rw [List.mapM_cons]
    refine (h a List.mem_cons_self).bind fun b hb => ?_
    exact (ih fun x hx => h x (List.mem_cons_of_mem a hx)).map fun bs hbs => .cons hb hbs

theorem yields_foldlM {f : β → α → Outcome β} {as : List α} {start : β} (hstart : Q start)
    (h : ∀ b, Q b → ∀ a ∈ as, (f b a).Yields Q) : (as.foldlM f start).Yields Q := by
  induction as generalizing start with
  | nil => exact yields_pure hstart
  | cons a rest ih =>
    rw [List.foldlM_cons]
    refine (h start hstart a List.mem_cons_self).bind fun b hb => ?_
    exact ih hb fun c hc x hx => h c hc x (List.mem_cons_of_mem a hx)

end Yields

end Reporting.Outcome
