import Reporting.Proofs.Calculations

/-!
# Calculations one after the other

What a list of calculations does to the rows of a table, from what one of them does
(`Calculation.apply_cases`).

* `Calculation.applyAll_append`: calculations run in stages, and fail where a stage does.
* `Calculation.forall₂_applyAll`: the rows stay in their places, and each keeps the cells that no
  supported calculation writes.
* `Calculation.applyAll_stages`: a calculation reads the rows that earlier ones made, and what it
  writes stands in the end, unless a later one writes the same field.
-/

namespace Reporting.Calculation

variable {c : Calculation} {calculations earlier later : List Calculation} {rows out : List Row}

/-- The fields that calculations write. -/
def outputs (calculations : List Calculation) : List String :=
  (calculations.filter isSupported).map (·.output)

/-- Whether a row has the cells of another one, as far as they are not under the given fields. -/
def KeepsOutside (fields : List String) (row next : Row) : Prop :=
  ∀ field, field ∉ fields → next.get? field = row.get? field

theorem KeepsOutside.trans {fields others : List String} {row next last : Row}
    (h : KeepsOutside fields row next) (h' : KeepsOutside others next last) :
    KeepsOutside (fields ++ others) row last := by
  intro field hfield
  rw [List.mem_append, not_or] at hfield
  exact (h' field hfield.2).trans (h field hfield.1)

theorem forall₂_keepsOutside_refl (fields : List String) (rows : List Row) :
    List.Forall₂ (KeepsOutside fields) rows rows :=
  List.forall₂_same.2 fun _ _ _ _ => rfl

theorem forall₂_keepsOutside_trans {fields others : List String} {next : List Row}
    (h : List.Forall₂ (KeepsOutside fields) rows next)
    (h' : List.Forall₂ (KeepsOutside others) next out) :
    List.Forall₂ (KeepsOutside (fields ++ others)) rows out := by
  induction h generalizing out with
  | nil =>
    cases h'
    exact .nil
  | cons hrow _ ih =>
    cases h' with
    | cons hnext hrest => exact .cons (hrow.trans hnext) (ih hrest)

/-- The cells of a field that is not among those written. -/
theorem map_get?_of_forall₂ {fields : List String} {field : String} (hfield : field ∉ fields)
    (h : List.Forall₂ (KeepsOutside fields) rows out) :
    out.map (·.get? field) = rows.map (·.get? field) := by
  induction h with
  | nil => rfl
  | cons hrow _ ih => rw [List.map_cons, List.map_cons, hrow field hfield, ih]

/-! ## One calculation -/

theorem forall₂_assign {output : String} {values : List Value}
    (hlength : values.length = rows.length) :
    List.Forall₂ (KeepsOutside [output]) rows (assign output rows values) := by
  induction rows generalizing values with
  | nil =>
    rw [assign, List.zipWith_nil_left]
    exact .nil
  | cons row rest ih =>
    obtain ⟨value, others, rfl⟩ := List.exists_cons_of_length_eq_add_one hlength
    have hrow : KeepsOutside [output] row (row.put output value) := by
      intro field hfield
      have hne : output ≠ field := fun e => hfield (by simp [e])
      rw [Keyed.get?_put, if_neg hne]
    exact .cons hrow (ih (by simpa using hlength))

theorem map_get?_assign {output : String} {values : List Value}
    (hlength : values.length = rows.length) :
    (assign output rows values).map (·.get? output) = values.map some := by
  induction rows generalizing values with
  | nil =>
    obtain rfl := List.length_eq_zero_iff.1 hlength
    rfl
  | cons row rest ih =>
    obtain ⟨value, others, rfl⟩ := List.exists_cons_of_length_eq_add_one hlength
    rw [assign, List.zipWith_cons_cons, List.map_cons, Keyed.get?_put, if_pos rfl, List.map_cons]
    exact congrArg (some value :: ·) (ih (by simpa using hlength))

/-- **What a calculation does**: one of a type that is not known leaves the rows as they are, and
any other writes the value of its rule to each row. -/
theorem apply_cases (h : c.apply rows = .ok out) :
    (c.isSupported = false ∧ out = rows) ∨
      c.isSupported = true ∧ ∃ values, values? c.rule rows = .ok (some values) ∧
        values.length = rows.length ∧ out = assign c.output rows values := by
  obtain ⟨values, hvalues, h⟩ := Outcome.bind_eq_ok.1 h
  cases values with
  | none => exact .inl ⟨(values_eq_none_iff hvalues).1 rfl, (Outcome.pure_eq_ok.1 h).symm⟩
  | some values =>
    refine .inr ⟨?_, values, hvalues, length_values hvalues, (Outcome.pure_eq_ok.1 h).symm⟩
    refine (Bool.eq_false_or_eq_true _).resolve_right fun hunsupported => ?_
    cases (values_eq_none_iff hvalues).2 hunsupported

theorem forall₂_apply (h : c.apply rows = .ok out) :
    List.Forall₂ (KeepsOutside (outputs [c])) rows out := by
  obtain ⟨-, rfl⟩ | ⟨hsupported, values, -, hlength, rfl⟩ := apply_cases h
  · exact forall₂_keepsOutside_refl _ _
  · have houtputs : outputs [c] = [c.output] := by simp [outputs, hsupported]
    rw [houtputs]
    exact forall₂_assign hlength

theorem length_apply (h : c.apply rows = .ok out) : out.length = rows.length :=
  (forall₂_apply h).length_eq.symm

/-- What a supported calculation writes is the value of its rule. -/
theorem map_get?_apply (hsupported : c.isSupported = true) (h : c.apply rows = .ok out) :
    ∃ values, values? c.rule rows = .ok (some values) ∧
      out.map (·.get? c.output) = values.map some := by
  obtain ⟨hunsupported, -⟩ | ⟨-, values, hvalues, hlength, rfl⟩ := apply_cases h
  · rw [hsupported] at hunsupported
    cases hunsupported
  · exact ⟨values, hvalues, map_get?_assign hlength⟩

/-! ## Calculations in order -/

theorem applyAll_of_ne_nil (hrows : rows ≠ []) (calculations : List Calculation) :
    applyAll calculations rows =
      calculations.foldlM (fun current c => c.apply current) rows :=
  if_neg (by simpa using hrows)

theorem applyAll_singleton (hrows : rows ≠ []) (c : Calculation) :
    applyAll [c] rows = c.apply rows := by
  rw [applyAll_of_ne_nil hrows, List.foldlM_cons]
  exact bind_pure (c.apply rows)

theorem outputs_append (earlier later : List Calculation) :
    outputs (earlier ++ later) = outputs earlier ++ outputs later := by
  rw [outputs, List.filter_append, List.map_append]
  rfl

theorem outputs_cons (c : Calculation) (calculations : List Calculation) :
    outputs (c :: calculations) = outputs [c] ++ outputs calculations :=
  outputs_append [c] calculations

/-- **Rows stay in their places and keep the cells that no supported calculation writes.** -/
theorem forall₂_applyAll (h : applyAll calculations rows = .ok out) :
    List.Forall₂ (KeepsOutside (outputs calculations)) rows out := by
  by_cases hrows : rows = []
  · subst hrows
    obtain rfl := Except.ok.inj h
    exact .nil
  · rw [applyAll_of_ne_nil hrows] at h
    clear hrows
    induction calculations generalizing rows with
    | nil =>
      obtain rfl := Outcome.pure_eq_ok.1 h
      exact forall₂_keepsOutside_refl _ _
    | cons c rest ih =>
      rw [List.foldlM_cons] at h
      obtain ⟨next, hnext, h⟩ := Outcome.bind_eq_ok.1 h
      rw [outputs_cons]
      exact forall₂_keepsOutside_trans (forall₂_apply hnext) (ih h)

theorem length_applyAll (h : applyAll calculations rows = .ok out) : out.length = rows.length :=
  (forall₂_applyAll h).length_eq.symm

theorem ne_nil_of_applyAll (hrows : rows ≠ []) (h : applyAll calculations rows = .ok out) :
    out ≠ [] := by
  intro hout
  have hlength := length_applyAll h
  rw [hout] at hlength
  exact hrows (List.length_eq_zero_iff.1 hlength.symm)

/-- **Calculations run in stages**, and fail where a stage does. -/
theorem applyAll_append (earlier later : List Calculation) (rows : List Row) :
    applyAll (earlier ++ later) rows = applyAll earlier rows >>= applyAll later := by
  by_cases hrows : rows = []
  · subst hrows
    rfl
  · rw [applyAll_of_ne_nil hrows, List.foldlM_append, ← applyAll_of_ne_nil hrows]
    cases hearlier : applyAll earlier rows with
    | error failure => rfl
    | ok made =>
      rw [Outcome.ok_bind, Outcome.ok_bind,
        applyAll_of_ne_nil (ne_nil_of_applyAll hrows hearlier)]

/-- **Calculations see what earlier ones made.** Calculations run in stages. Where they succeed, the
rows stay in their places and keep what no supported calculation writes. The field that a
calculation writes holds in the end what it held right after it, unless a later supported one writes
it too, and that is the value of its rule over the rows which the calculations before it made. -/
theorem applyAll_stages (earlier later : List Calculation) (rows : List Row) :
    applyAll (earlier ++ later) rows = applyAll earlier rows >>= applyAll later ∧
    ∀ calculations out, applyAll calculations rows = .ok out →
      List.Forall₂ (KeepsOutside (outputs calculations)) rows out ∧
      ∀ before c after, calculations = before ++ c :: after → c.output ∉ outputs after →
        ∃ seen made, applyAll before rows = .ok seen ∧
          applyAll (before ++ [c]) rows = .ok made ∧
          out.map (·.get? c.output) = made.map (·.get? c.output) ∧
          (c.isSupported = true → rows ≠ [] →
            ∃ values, values? c.rule seen = .ok (some values) ∧
              made.map (·.get? c.output) = values.map some) := by
  refine ⟨applyAll_append earlier later rows, fun calculations out h => ?_⟩
  refine ⟨forall₂_applyAll h, ?_⟩
  rintro before c after rfl houtput
  have hsplit : before ++ c :: after = (before ++ [c]) ++ after := by simp
  rw [hsplit, applyAll_append] at h
  obtain ⟨made, hmade, hafter⟩ := Outcome.bind_eq_ok.1 h
  have hstages := hmade
  rw [applyAll_append] at hstages
  obtain ⟨seen, hseen, hlast⟩ := Outcome.bind_eq_ok.1 hstages
  refine ⟨seen, made, hseen, hmade, map_get?_of_forall₂ houtput (forall₂_applyAll hafter), ?_⟩
  intro hsupported hrows
  rw [applyAll_singleton (ne_nil_of_applyAll hrows hseen)] at hlast
  exact map_get?_apply hsupported hlast

/-- The sales of three months. -/
def quarterSales : List Row :=
  [("May", 3), ("June", -4), ("July", 7)].map fun sale =>
    .ofList [("month", .text sale.1), ("sales", .int sale.2)]

/-- The sales so far, the share of the sales in them, and their rank, which takes the place of the
share. -/
def quarterCalculations : List Calculation := [
  ⟨"sum", "Sum", "sum", .yearToDate "sales"⟩,
  ⟨"share", "Share", "place", .arithmetic "sales / sum"⟩,
  ⟨"rank", "Rank", "place", .rank "sum"⟩]

theorem applyAll_stages_quarter :
    ∃ out, applyAll quarterCalculations quarterSales = .ok out ∧
      out.map (·.get? "month") = quarterSales.map (·.get? "month") ∧
      out.map (·.get? "sum") = [some (.int 3), some (.int (-1)), some (.int 6)] ∧
      ∃ seen, applyAll (quarterCalculations.take 2) quarterSales = .ok seen ∧
        ∃ values, values? (.rank "sum") seen = .ok (some values) ∧
          out.map (·.get? "place") = values.map some := by
  have hsum : (applyAll (quarterCalculations.take 1) quarterSales).map
      (fun made => made.map (·.get? "sum")) =
        .ok [some (.int 3), some (.int (-1)), some (.int 6)] := by decide +kernel
  cases hout : applyAll quarterCalculations quarterSales with
  | error failure =>
    have hok : (applyAll quarterCalculations quarterSales).isOk = true := by decide +kernel
    rw [hout] at hok
    cases hok
  | ok out =>
    obtain ⟨hkeeps, hfields⟩ := (applyAll_stages [] [] quarterSales).2 _ _ hout
    obtain ⟨-, made, -, hmade, hfirst, -⟩ :=
      hfields [] _ (quarterCalculations.drop 1) rfl (by decide +kernel)
    obtain ⟨seen, made', hseen, hmade', hlast, hvalues⟩ :=
      hfields (quarterCalculations.take 2) _ [] rfl (by decide +kernel)
    obtain ⟨values, hrank, hplaces⟩ := hvalues rfl (by decide)
    have hmonth : out.map (·.get? "month") = quarterSales.map (·.get? "month") :=
      map_get?_of_forall₂ (by decide +kernel) hkeeps
    have hmade : applyAll (quarterCalculations.take 1) quarterSales = .ok made := hmade
    rw [hmade] at hsum
    exact ⟨out, rfl, hmonth, hfirst.trans (Except.ok.inj hsum), seen, hseen, values, hrank,
      hlast.trans hplaces⟩

end Reporting.Calculation
