import Reporting.Dataset

/-!
# Steps that load rows

A step on the way to a report may ask for rows. `Loading` is such a step as it was taken: its
outcome, and the log of all that it asked for. Steps in sequence join their logs, and a failure
keeps what was asked for before it.
-/

namespace Reporting

/-- A request for rows. -/
structure LoadRequest where
  principal : Principal
  datasetIds : List String
  startMonth : Int
  deriving DecidableEq, Repr

/-- A step that may ask for rows: what it asked for, in order, and how it ended. -/
structure Loading (ε α : Type) where
  loads : List LoadRequest
  outcome : Except ε α

namespace Loading

variable {ε δ α β γ : Type}

/-- A step that asks for no rows. -/
def quiet (x : Except ε α) : Loading ε α := ⟨[], x⟩

/-- A step, and unless it fails another one that goes on from its result. -/
protected def bind (x : Loading ε α) (f : α → Loading ε β) : Loading ε β :=
  match x.outcome with
  | .ok a => ⟨x.loads ++ (f a).loads, (f a).outcome⟩
  | .error e => ⟨x.loads, .error e⟩

instance : Monad (Loading ε) where
  pure a := quiet (.ok a)
  bind := Loading.bind

instance : MonadLift (Except ε) (Loading ε) := ⟨quiet⟩

/-- A step that names its failures in another way. -/
def mapError (f : ε → δ) (x : Loading ε α) : Loading δ α := ⟨x.loads, x.outcome.mapError f⟩

/-- A step that does not fail, but tells how another one ended. -/
def attempt (x : Loading ε α) : Loading δ (Except ε α) := ⟨x.loads, .ok x.outcome⟩

/-! ## Steps in sequence -/

@[simp] theorem liftM_eq (x : Except ε α) : (liftM x : Loading ε α) = quiet x := rfl

@[simp] theorem ok_bind (loads : List LoadRequest) (a : α) (f : α → Loading ε β) :
    (⟨loads, .ok a⟩ >>= f) = ⟨loads ++ (f a).loads, (f a).outcome⟩ := rfl

@[simp] theorem quiet_ok_bind (a : α) (f : α → Loading ε β) : (quiet (.ok a) >>= f) = f a := rfl

@[simp] theorem quiet_error_bind (e : ε) (f : α → Loading ε β) :
    (quiet (.error e) >>= f) = quiet (.error e) := rfl

/-- Steps that go on alike from what an outcome may be. -/
theorem quiet_bind_congr {x : Except ε α} {f g : α → Loading ε β}
    (h : ∀ a, x = .ok a → f a = g a) : (quiet x >>= f) = (quiet x >>= g) := by
  cases x with
  | error e => rfl
  | ok a => exact h a rfl

theorem outcome_bind (x : Loading ε α) (f : α → Loading ε β) :
    (x >>= f).outcome = x.outcome >>= fun a => (f a).outcome := by
  obtain ⟨loads, e | a⟩ := x <;> rfl

instance : LawfulMonad (Loading ε) := LawfulMonad.mk' _
  (by rintro α ⟨loads, e | a⟩
      · rfl
      · simp [Functor.map, Loading.bind, quiet])
  (by intros; rfl)
  (by rintro α β γ ⟨loads, e | a⟩ f g
      · rfl
      · rw [ok_bind, ok_bind]
        obtain ⟨more, e | b⟩ := f a
        · rfl
        · simp)

/-- A step that only hands its result on. -/
@[simp] theorem bind_quiet (x : Loading ε α) : (x >>= fun a => quiet (.ok a)) = x := bind_pure x

theorem outcome_mapM (f : α → Loading ε β) (xs : List α) :
    (xs.mapM f).outcome = xs.mapM fun x => (f x).outcome := by
  induction xs with
  | nil => rfl
  | cons x rest ih =>
    rw [List.mapM_cons, List.mapM_cons, outcome_bind]
    refine bind_congr fun y => ?_
    rw [outcome_bind, ih]
    rfl

/-! ## Other names for failures -/

theorem mapError_map (f : ε → δ) (g : α → β) (x : Loading ε α) :
    (g <$> x).mapError f = g <$> x.mapError f := by
  obtain ⟨loads, e | a⟩ := x <;> rfl

theorem outcome_mapError_eq_ok {f : ε → δ} {x : Loading ε α} {a : α} :
    (x.mapError f).outcome = .ok a ↔ x.outcome = .ok a := by
  obtain ⟨loads, e | b⟩ := x
  · constructor <;> intro h <;> cases h
  · exact ⟨fun h => congrArg _ (Except.ok.inj h), fun h => congrArg _ (Except.ok.inj h)⟩

theorem exists_of_mapError_eq_error {f : ε → δ} {x : Loading ε α} {d : δ}
    (h : (x.mapError f).outcome = .error d) : ∃ e, x.outcome = .error e ∧ f e = d := by
  obtain ⟨loads, e | b⟩ := x
  · exact ⟨e, rfl, Except.error.inj h⟩
  · cases h

end Loading

end Reporting
