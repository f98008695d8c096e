import Reporting.Calculation
import Reporting.Proofs.Outcome

/-!
# What calculations keep

Every rule gives one value for each row (`Calculation.length_values`), so a calculation writes its
output to each row and keeps the rows, their order and the cells of other fields
(`Calculation.map_cell_apply`), and so do calculations one after the other
(`Calculation.map_cell_applyAll`).
-/

namespace Reporting

/-! ## Series -/

namespace Series

theorem length_changesFrom (previous : Double) (xs : List Double) :
    (changesFrom previous xs).length = xs.length := by
  induction xs generalizing previous with
  | nil => rfl
  | cons x rest ih => exact congrArg (· + 1) (ih x)

theorem length_changes (xs : List Double) : (changes xs).length = xs.length := by
  cases xs with
  | nil => rfl
  | cons x rest => exact congrArg (· + 1) (length_changesFrom x rest)

theorem length_totalsFrom (total : Double) (xs : List Double) :
    (totalsFrom total xs).length = xs.length := by
  induction xs generalizing total with
  | nil => rfl
  | cons x rest ih => exact congrArg (· + 1) (ih (total.add x))

theorem length_runningTotals (xs : List Double) : (runningTotals xs).length = xs.length := by
  cases xs with
  | nil => rfl
  | cons x rest => exact congrArg (· + 1) (length_totalsFrom x rest)

theorem length_rollingFrom (size position : Nat) (w : Window) (departing xs : List Double) :
    (rollingFrom size position w departing xs).length = xs.length := by
  induction xs generalizing position w departing with
  | nil => rfl
  | cons x rest ih => exact congrArg (· + 1) (ih _ _ _)

theorem length_rollingTotals (size : Nat) (xs : List Double) :
    (rollingTotals size xs).length = xs.length :=
  length_rollingFrom size 0 _ xs xs

theorem length_ranksFrom (earlier xs : List Double) :
    (ranksFrom earlier xs).length = xs.length := by
  induction xs generalizing earlier with
  | nil => rfl
  | cons x rest ih => exact congrArg (· + 1) (ih (earlier ++ [x]))

theorem length_ranks (xs : List Double) : (ranks xs).length = xs.length := length_ranksFrom [] xs

end Series

namespace Calculation

variable {rows out : List Row}

/-! ## Single calculations -/

theorem length_rollingValues {field : String} {window : Value} {xs : List Double}
    (h : rollingValues field window rows = .ok xs) : xs.length = rows.length := by
  obtain ⟨size, -, h⟩ := Outcome.bind_eq_ok.1 h
  obtain ⟨series, hseries, h⟩ := Outcome.bind_eq_ok.1 h
  split at h
  · rw [← Outcome.pure_eq_ok.1 h, Series.length_rollingTotals, Outcome.length_of_mapM hseries]
  · cases h

/-- **Every rule gives one value for each row.** -/
theorem length_values {rule : Rule} {values : List Value}
    (h : values? rule rows = .ok (some values)) : values.length = rows.length := by
  cases rule with
  | arithmetic expression =>
    obtain ⟨made, hmade, rfl⟩ := Outcome.bind_some_eq_ok.1 h
    exact Outcome.length_of_mapM hmade
  | variance percentage minuend subtrahend =>
    obtain ⟨made, hmade, rfl⟩ := Outcome.bind_some_eq_ok.1 h
    exact Outcome.length_of_mapM hmade
  | change period field =>
    obtain ⟨series, hseries, rfl⟩ := Outcome.bind_some_eq_ok.1 h
    rw [List.length_map, Series.length_changes, Outcome.length_of_mapM hseries]
  | rolling field window =>
    obtain ⟨made, hmade, rfl⟩ := Outcome.bind_some_eq_ok.1 h
    rw [List.length_map, length_rollingValues hmade]
  | yearToDate field =>
    obtain ⟨series, hseries, rfl⟩ := Outcome.bind_some_eq_ok.1 h
    rw [List.length_map, Series.length_runningTotals, Outcome.length_of_mapM hseries]
  | choice condition yes no =>
    obtain ⟨made, hmade, rfl⟩ := Outcome.bind_some_eq_ok.1 h
    exact Outcome.length_of_mapM hmade
  | rank field =>
    obtain ⟨series, hseries, rfl⟩ := Outcome.bind_some_eq_ok.1 h
    rw [List.length_map, Series.length_ranks, Outcome.length_of_mapM hseries]
  | unsupported type => cases h

/-- A rule has values if and only if it is supported. -/
theorem values_eq_none_iff {c : Calculation} {values : Option (List Value)}
    (h : values? c.rule rows = .ok values) : values = none ↔ c.isSupported = false := by
  rw [isSupported]
  cases hrule : c.rule with
  | unsupported type =>
    rw [hrule] at h
    exact ⟨fun _ => rfl, fun _ => (Except.ok.inj h).symm⟩
  | arithmetic | variance | change | rolling | yearToDate | choice | rank =>
    rw [hrule] at h
    obtain ⟨made, -, h⟩ := Outcome.bind_eq_ok.1 h
    obtain rfl := Outcome.pure_eq_ok.1 h
    exact ⟨nofun, nofun⟩

theorem map_cell_assign {output field : String} {values : List Value} (hne : output ≠ field)
    (hlength : values.length = rows.length) :
    (assign output rows values).map (·.cell field) = rows.map (·.cell field) := by
  rw [assign, List.map_zipWith]
  induction rows generalizing values with
  | nil => rfl
  | cons row rest ih =>
    obtain ⟨value, others, rfl⟩ := List.exists_cons_of_length_eq_add_one hlength
    rw [List.zipWith_cons_cons, List.map_cons, ih (by simpa using hlength)]
    rw [Keyed.cell, Keyed.get?_put, if_neg hne]
    rfl

/-- What is written to an output can be read from it. -/
theorem map_cell_output (output : String) {values : List Value}
    (hlength : values.length = rows.length) :
    (assign output rows values).map (·.cell output) = values := by
  rw [assign, List.map_zipWith]
  induction rows generalizing values with
  | nil => exact (List.length_eq_zero_iff.1 hlength).symm
  | cons row rest ih =>
    obtain ⟨value, others, rfl⟩ := List.exists_cons_of_length_eq_add_one hlength
    rw [List.zipWith_cons_cons, ih (by simpa using hlength), Keyed.cell, Keyed.get?_put, if_pos rfl]
    rfl

/-- A calculation keeps the rows and the cells of other fields. -/
theorem map_cell_apply {c : Calculation} {field : String}
    (hfield : c.isSupported = true → c.output ≠ field) (h : c.apply rows = .ok out) :
    out.map (·.cell field) = rows.map (·.cell field) := by
  obtain ⟨values, hvalues, h⟩ := Outcome.bind_eq_ok.1 h
  cases values with
  | none => rw [Outcome.pure_eq_ok.1 h]
  | some values =>
    have hsupported : c.isSupported = true := by
      refine (Bool.eq_false_or_eq_true _).resolve_right fun hunsupported => ?_
      cases (values_eq_none_iff hvalues).2 hunsupported
    rw [← Outcome.pure_eq_ok.1 h, map_cell_assign (hfield hsupported) (length_values hvalues)]

/-! ## Calculations in order -/

/-- **Calculations keep the rows and the cells of fields that they do not write.** -/
theorem map_cell_applyAll {calculations : List Calculation} {field : String}
    (hfield : ∀ c ∈ calculations, c.isSupported = true → c.output ≠ field)
    (h : applyAll calculations rows = .ok out) :
    out.map (·.cell field) = rows.map (·.cell field) := by
  rw [applyAll] at h
  split at h
  · rw [Except.ok.inj h]
  · clear * - hfield h
    induction calculations generalizing rows with
    | nil => rw [Outcome.pure_eq_ok.1 h]
    | cons c rest ih =>
      rw [List.foldlM_cons] at h
      obtain ⟨next, hnext, h⟩ := Outcome.bind_eq_ok.1 h
      rw [ih (fun c' hc' => hfield c' (List.mem_cons_of_mem _ hc')) h,
        map_cell_apply (hfield c List.mem_cons_self) hnext]

end Calculation

end Reporting
