import Reporting.Proofs.Groups
import Reporting.Proofs.Run

/-!
# Filtered rows

Filters keep the rows that satisfy all of them, in order (`Filter.keep_inv`), and they do so without
failure where no single condition fails on a row (`Filter.keep_of_decides`). So lists of filters act
one after the other, in either order, as they do together, and the filters of a run only narrow down
what its view keeps (`runView_narrowed`).
-/

namespace Reporting

open Outcome

namespace Filter

/-- Whether a row satisfies every filter. -/
def Admits (filters : List Filter) (row : Row) : Prop :=
  ∀ f ∈ filters, f.accepts row = .ok true

instance (filters : List Filter) (row : Row) : Decidable (Admits filters row) :=
  inferInstanceAs (Decidable (∀ f ∈ filters, f.accepts row = .ok true))

/-- Whether every filter says yes or no of a row. -/
def Decides (filters : List Filter) (row : Row) : Prop :=
  ∀ f ∈ filters, ∃ b, f.accepts row = .ok b

variable {filters more : List Filter} {row : Row} {rows kept : List Row}

theorem admits_append : Admits (filters ++ more) row ↔ Admits filters row ∧ Admits more row :=
  List.forall_mem_append

theorem admits_cons {f : Filter} :
    Admits (f :: filters) row ↔ f.accepts row = .ok true ∧ Admits filters row :=
  List.forall_mem_cons

theorem admits_singleton {f : Filter} : Admits [f] row ↔ f.accepts row = .ok true := by
  simp [Admits]

theorem decides_singleton {f : Filter} : Decides [f] row ↔ ∃ b, f.accepts row = .ok b := by
  simp [Decides]

theorem decides_append : Decides (filters ++ more) row ↔ Decides filters row ∧ Decides more row :=
  List.forall_mem_append

/-! ## One row -/

/-- Filters that come to an answer of a row say whether it satisfies them all. -/
theorem acceptsAll_inv {b : Bool} (h : acceptsAll filters row = .ok b) :
    b = decide (Admits filters row) := by
  induction filters with
  | nil => exact (Except.ok.inj h).symm.trans (decide_eq_true nofun).symm
  | cons f rest ih =>
    obtain ⟨first, hfirst, h⟩ := bind_eq_ok.1 h
    cases first with
    | false => simp [← pure_eq_ok.1 h, admits_cons, hfirst]
    | true => simp [ih h, admits_cons, hfirst]

theorem acceptsAll_of_decides (h : Decides filters row) :
    acceptsAll filters row = .ok (decide (Admits filters row)) := by
  have hanswer : ∃ b, acceptsAll filters row = .ok b := by
    induction filters with
    | nil => exact ⟨true, rfl⟩
    | cons f rest ih =>
      obtain ⟨⟨first, hfirst⟩, hrest⟩ := List.forall_mem_cons.1 h
      rw [acceptsAll, hfirst, ok_bind]
      cases first with
      | false => exact ⟨false, rfl⟩
      | true => exact ih hrest
  obtain ⟨b, hb⟩ := hanswer
  rw [hb, acceptsAll_inv hb]

theorem acceptsAll_singleton (f : Filter) (row : Row) : acceptsAll [f] row = f.accepts row := by
  rw [acceptsAll]
  cases f.accepts row with
  | error failure => rfl
  | ok b => cases b <;> rfl

/-! ## All rows -/

/-- **What filters keep** are the rows that satisfy them all, in order. -/
theorem keep_inv (h : keep filters rows = .ok kept) :
    kept = rows.filter fun row => Admits filters row := by
  induction rows generalizing kept with
  | nil => exact (Except.ok.inj h).symm
  | cons row rest ih =>
    obtain ⟨b, hb, h⟩ := bind_eq_ok.1 h
    obtain rfl := acceptsAll_inv hb
    rw [List.filter_cons]
    split at h
    · next hrow =>
      obtain ⟨keptRest, hrest, h⟩ := bind_eq_ok.1 h
      rw [if_pos hrow, ← ih hrest, pure_eq_ok.1 h]
    · next hrow => rw [if_neg hrow, ← ih h]

theorem keep_of_decides (h : ∀ row ∈ rows, Decides filters row) :
    keep filters rows = .ok (rows.filter fun row => Admits filters row) := by
  induction rows with
  | nil => rfl
  | cons row rest ih =>
    obtain ⟨hrow, hrest⟩ := List.forall_mem_cons.1 h
    rw [keep, acceptsAll_of_decides hrow, ok_bind, ih hrest, List.filter_cons]
    split <;> rfl

/-- One filter keeps rows only if it says yes or no of each of them. -/
theorem decides_of_keep_singleton {f : Filter} (h : keep [f] rows = .ok kept) :
    ∀ row ∈ rows, Decides [f] row := by
  induction rows generalizing kept with
  | nil => nofun
  | cons row rest ih =>
    obtain ⟨b, hb, h⟩ := bind_eq_ok.1 h
    rw [acceptsAll_singleton] at hb
    refine List.forall_mem_cons.2 ⟨decides_singleton.2 ⟨b, hb⟩, ?_⟩
    split at h
    · obtain ⟨keptRest, hrest, -⟩ := bind_eq_ok.1 h
      exact ih hrest
    · exact ih h

/-- **Filters act one after the other as they do together**, if each says yes or no of every row. -/
theorem keep_append (h : ∀ row ∈ rows, Decides (filters ++ more) row) :
    (keep filters rows >>= keep more) =
      .ok (rows.filter fun row => Admits (filters ++ more) row) := by
  have hfilters : ∀ row ∈ rows, Decides filters row := fun row hrow =>
    (decides_append.1 (h row hrow)).1
  have hmore : ∀ row ∈ rows.filter (fun row => Admits filters row), Decides more row :=
    fun row hrow => (decides_append.1 (h row (List.mem_filter.1 hrow).1)).2
  rw [keep_of_decides hfilters, ok_bind, keep_of_decides hmore, List.filter_filter]
  simp only [admits_append, Bool.decide_and, Bool.and_comm]

end Filter

/-! ## Runs -/

/-- The rows that a run keeps are the loaded ones that satisfy the filters of the view and of the
run, with placeholders replaced. -/
theorem rawRows_of_runView {defaultPageSize : Int} {clock : Outcome Moment} {rows : List Row}
    {view : View} {calculations : List Calculation} {input : RunInput} {result : RunResult}
    (h : runView defaultPageSize clock rows view calculations input = .ok result) :
    result.rawRows = rows.filter fun row => ∀ f ∈ view.filters ++ input.filters.getD [],
      (f.resolve input.parameters).accepts row = .ok true := by
  obtain ⟨whole, ordered, hsteps, rfl⟩ := runView_inv defaultPageSize h
  refine (Filter.keep_inv hsteps.kept).trans (List.filter_congr fun row _ => ?_)
  exact decide_eq_decide.2 List.forall_mem_map

/-- **Filters combine, and those of a run only narrow it down.** Where no condition fails on a row,
two lists of filters keep the same rows together, one after the other and the other way round: those
that satisfy all of them. A successful run keeps exactly the loaded rows, unchanged and in order,
that satisfy every filter of the view and of the run with placeholders replaced; these are some of
the rows that a successful run without filters of its own keeps, in their order. -/
theorem runView_narrowed :
    (∀ (filters more : List Filter) (rows : List Row),
      (∀ row ∈ rows, ∀ f ∈ filters ++ more, ∃ b, f.accepts row = .ok b) →
        let kept := rows.filter fun row => ∀ f ∈ filters ++ more, f.accepts row = .ok true
        Filter.keep (filters ++ more) rows = .ok kept ∧
        (Filter.keep filters rows >>= Filter.keep more) = .ok kept ∧
        (Filter.keep more rows >>= Filter.keep filters) = .ok kept) ∧
    ∀ (defaultPageSize : Int) (clock : Outcome Moment) (rows : List Row) (view : View)
      (calculations : List Calculation) (input : RunInput) (result : RunResult),
      runView defaultPageSize clock rows view calculations input = .ok result →
        (result.rawRows = rows.filter fun row => ∀ f ∈ view.filters ++ input.filters.getD [],
          (f.resolve input.parameters).accepts row = .ok true) ∧
        ∀ (later : Outcome Moment) (plain : RunInput) (wider : RunResult),
          plain.parameters = input.parameters → plain.filters.getD [] = [] →
          runView defaultPageSize later rows view calculations plain = .ok wider →
            result.rawRows.Sublist wider.rawRows := by
  refine ⟨fun filters more rows h => ?_, fun defaultPageSize clock rows view calculations input
    result hresult => ⟨rawRows_of_runView hresult,
      fun later plain wider hparameters hnone hwider => ?_⟩⟩
  · have hswapped : ∀ row ∈ rows, Filter.Decides (more ++ filters) row := fun row hrow =>
      Filter.decides_append.2 (Filter.decides_append.1 (h row hrow)).symm
    refine ⟨Filter.keep_of_decides h, Filter.keep_append h, (Filter.keep_append hswapped).trans ?_⟩
    refine congrArg Except.ok (List.filter_congr fun row _ => decide_eq_decide.2 ?_)
    rw [Filter.admits_append, and_comm, ← Filter.admits_append]
    rfl
  · rw [rawRows_of_runView hresult, rawRows_of_runView hwider, hparameters, hnone,
      List.append_nil]
    refine List.monotone_filter_right rows fun row hrow => ?_
    simp only [decide_eq_true_eq] at hrow ⊢
    exact fun f hf => hrow f (List.mem_append_left _ hf)

/-- The sales of a region that a run names, and the filters of the run. -/
def salesOfRegion (filters : Option (List Filter)) : Outcome RunResult :=
  runView 25 (.ok ⟨0⟩) sales
    { monthlySales with
      columnFields := []
      filters := [⟨"region", "eq", .text "{{ region }}"⟩] } []
    { RunInput.plain with parameters := .ofList [("region", "North")], filters }

theorem runView_narrowed_north :
    ∃ result wider,
      salesOfRegion (some [⟨"amount", "gt", .int 0⟩]) = .ok result ∧
      salesOfRegion none = .ok wider ∧
      result.rawRows = [sale "north" "May" 3, sale "north" "May" 7] ∧
      result.rawRows.Sublist wider.rawRows ∧
      (Filter.keep [⟨"region", "eq", .text "North"⟩] sales >>=
        Filter.keep [⟨"amount", "gt", .int 0⟩]) = .ok result.rawRows := by
  let region : Filter := ⟨"region", "eq", .text "North"⟩
  let gain : Filter := ⟨"amount", "gt", .int 0⟩
  have hsome : (salesOfRegion (some [gain])).toBool = true := by decide +kernel
  have hnone : (salesOfRegion none).toBool = true := by decide +kernel
  obtain ⟨result, hresult, -⟩ := yields_of_toBool hsome
  obtain ⟨wider, hwider, -⟩ := yields_of_toBool hnone
  have hanswers : ∀ row ∈ sales, ∀ f ∈ [region] ++ [gain], (f.accepts row).toBool = true := by
    decide +kernel
  have hdecides : ∀ row ∈ sales, ∀ f ∈ [region] ++ [gain], ∃ b, f.accepts row = .ok b := by
    intro row hrow f hf
    obtain ⟨b, hb, -⟩ := yields_of_toBool (hanswers row hrow f hf)
    exact ⟨b, hb⟩
  have hboth : (sales.filter fun row => ∀ f ∈ [region] ++ [gain], f.accepts row = .ok true) =
      [sale "north" "May" 3, sale "north" "May" 7] := by decide +kernel
  obtain ⟨hraw, hsublist⟩ := runView_narrowed.2 _ _ _ _ _ _ _ hresult
  have hrows : result.rawRows = [sale "north" "May" 3, sale "north" "May" 7] :=
    hraw.trans (by decide +kernel)
  refine ⟨result, wider, hresult, hwider, hrows, ?_, ?_⟩
  · exact hsublist (.ok ⟨0⟩)
      { RunInput.plain with parameters := .ofList [("region", "North")] } wider rfl rfl hwider
  · rw [hrows, ← hboth]
    exact (runView_narrowed.1 [region] [gain] sales hdecides).2.1

end Reporting
