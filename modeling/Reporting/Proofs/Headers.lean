import Reporting.Proofs.Columns
import Reporting.Proofs.RollUp

/-!
# Headers of tables

A table with rows has the fields of its rows as columns (`Table.fields`), and a table without rows
the names that its view and calculations announce (`Table.announced`). A calculation of a type that
is not known announces its output, and has a total under it, but writes it to no row, so the two
headers and the totals agree as far as such outputs are written by something else
(`Table.build_header`).
-/

namespace Reporting

/-- The keys of totals are their columns. -/
theorem keys_columnTotals {rows : List Row} {columns : List String} {totals : Keyed Number}
    (h : columnTotals rows columns = .ok totals) : totals.keys = firsts columns := by
  have hkeys : ∀ start : Keyed Number, columns.foldlM (fun (before : Keyed Number) column => do
      return before.put column (← columnTotal rows column)) start = .ok totals →
      totals.keys = firsts (start.keys ++ columns) := by
    clear h
    induction columns with
    | nil =>
      intro start h
      have hnodup : start.keys.Nodup := start.nodup
      rw [← Outcome.pure_eq_ok.1 h, List.append_nil, firsts_of_nodup hnodup]
    | cons column rest ih =>
      intro start h
      rw [List.foldlM_cons] at h
      obtain ⟨next, hnext, h⟩ := Outcome.bind_eq_ok.1 h
      obtain ⟨total, -, hnext⟩ := Outcome.bind_eq_ok.1 hnext
      rw [ih next h, ← Outcome.pure_eq_ok.1 hnext, Keyed.keys_put_eq_firsts, firsts_firsts_append,
        List.append_assoc]
      rfl
  exact hkeys .empty h

namespace Table

variable {view : View} {calculations : List Calculation} {rows ordered : List Row}

/-! ## Announced names -/

/-- The names that a view and calculations announce: the dimensions, the labels and the outputs,
those of calculations of an unknown type among them. -/
def announced (view : View) (calculations : List Calculation) : List String :=
  firsts (view.dimensions ++ view.measures.map (·.label) ++ calculations.map (·.output))

/-- Whether no label of a view and no output of a calculation is empty. -/
structure IsNamed (view : View) (calculations : List Calculation) : Prop where
  label : ∀ measure ∈ view.measures, measure.label ≠ ""
  output : ∀ c ∈ calculations, c.output ≠ ""

theorem IsNamed.metricColumns_eq (h : IsNamed view calculations) :
    metricColumns view calculations =
      firsts (view.measures.map (·.label) ++ calculations.map (·.output)) := by
  rw [metricColumns, List.filter_eq_self.2]
  intro name hname
  rcases List.mem_append.1 hname with hname | hname
  · obtain ⟨measure, hmeasure, rfl⟩ := List.mem_map.1 hname
    exact decide_eq_true (h.label measure hmeasure)
  · obtain ⟨c, hc, rfl⟩ := List.mem_map.1 hname
    exact decide_eq_true (h.output c hc)

/-- The fields of rows are what is announced, if every output that no calculation writes comes up
before. -/
theorem fields_eq_announced (h : ∀ before c after, calculations = before ++ c :: after →
      c.isSupported = false →
      c.output ∈ view.dimensions ++ view.measures.map (·.label) ++ Calculation.outputs before) :
    fields view calculations = announced view calculations := by
  rw [fields, announced]
  generalize view.dimensions ++ view.measures.map (·.label) = names at h ⊢
  -- The last calculation adds its output to the names before it, on both sides or on neither.
  induction calculations using List.reverseRecOn with
  | nil => rfl
  | append_singleton earlier c ih =>
    have hearlier : firsts (names ++ Calculation.outputs earlier) =
        firsts (names ++ earlier.map (·.output)) :=
      ih fun before d after hsplit =>
        h before d (after ++ [c]) (by rw [hsplit, List.append_assoc, List.cons_append])
    have hlast : firsts (names ++ Calculation.outputs earlier ++ Calculation.outputs [c]) =
        firsts (names ++ Calculation.outputs earlier ++ [c.output]) := by
      cases hsupported : c.isSupported with
      | true => simp [Calculation.outputs, hsupported]
      | false =>
        rw [firsts_append_cons_of_mem (h earlier c [] rfl hsupported)]
        simp [Calculation.outputs, hsupported]
    calc firsts (names ++ Calculation.outputs (earlier ++ [c]))
        = firsts (names ++ Calculation.outputs earlier ++ Calculation.outputs [c]) := by
          rw [Calculation.outputs_append, List.append_assoc]
      _ = firsts (names ++ earlier.map (·.output) ++ [c.output]) := by
          rw [hlast, ← firsts_firsts_append, hearlier, firsts_firsts_append]
      _ = firsts (names ++ (earlier ++ [c]).map (·.output)) := by
          rw [List.map_append, List.append_assoc]
          rfl

theorem output_mem_fields {c : Calculation} (hc : c ∈ calculations)
    (hsupported : c.isSupported = true) : c.output ∈ fields view calculations := by
  rw [fields, mem_firsts, List.mem_append]
  exact .inr (List.mem_map_of_mem (List.mem_filter.2 ⟨hc, hsupported⟩))

/-! ## Columns -/

/-- A table has rows if and only if there is something to group. -/
theorem ordered_eq_nil_iff (h : allRows view calculations rows = .ok ordered) :
    ordered = [] ↔ rows = [] := by
  obtain ⟨grouped, calculated, hgrouped, hcalculated, hordered⟩ := allRows_inv h
  have hlength := (SortRule.perm_sortRows hordered).length_eq.trans
    (Calculation.length_applyAll hcalculated)
  rw [groupRows_eq (isKeyable_of_groupRows hgrouped)] at hgrouped
  rw [Outcome.length_of_mapM hgrouped] at hlength
  rw [← List.length_eq_zero_iff, hlength, List.length_eq_zero_iff, List.eq_nil_iff_forall_not_mem]
  simp only [mem_firsts]
  rw [← List.eq_nil_iff_forall_not_mem, List.map_eq_nil_iff]

variable {page pageSize : Int} {table : Table}

/-- The columns of a table: the fields of its rows, or else what is announced. -/
theorem columns_of_build (hnamed : IsNamed view calculations)
    (h : build view calculations page pageSize rows = .ok (table, ordered)) :
    table.columns =
      if rows = [] then announced view calculations else fields view calculations := by
  obtain ⟨hordered, -, hcolumns, -⟩ := build_inv h
  rw [hcolumns, columnsOf_eq hordered, hnamed.metricColumns_eq, firsts_append_firsts,
    ← List.append_assoc]
  refine if_congr ?_ rfl rfl
  rw [List.isEmpty_iff, ordered_eq_nil_iff hordered]

/-- Every total stands under a column, if the table has no rows or what its calculations of an
unknown type announce is written by something else. -/
theorem totals_of_build (hnamed : IsNamed view calculations)
    (h : build view calculations page pageSize rows = .ok (table, ordered)) :
    (∀ key ∈ table.totals.keys, key ∈ table.columns) ↔
      rows = [] ∨ ∀ c ∈ calculations, c.isSupported = false →
        c.output ∈ fields view calculations := by
  obtain ⟨-, htotals, -, -⟩ := build_inv h
  rw [columns_of_build hnamed h, keys_columnTotals htotals, hnamed.metricColumns_eq]
  simp only [mem_firsts, List.mem_append]
  split
  · next hrows =>
    refine iff_of_true (fun key hkey => ?_) (.inl hrows)
    rw [announced, mem_firsts, List.append_assoc, List.mem_append, List.mem_append]
    exact .inr hkey
  · next hrows =>
    refine ⟨fun hkeys => .inr fun c hc _ => hkeys _ (.inr (List.mem_map_of_mem hc)), ?_⟩
    rintro hall key (hkey | hkey)
    · rw [fields, mem_firsts, List.mem_append, List.mem_append]
      exact .inl (.inr hkey)
    · obtain ⟨c, hc, rfl⟩ := List.mem_map.1 hkey
      cases hsupported : c.isSupported with
      | true => exact output_mem_fields hc hsupported
      | false => exact hall.resolve_left hrows c hc hsupported

/-- **Headers are stable as far as announced names are written.** Two tables of a view have the same
columns if and only if both have rows, or neither has, or the fields of rows are what is announced.
They are, if each calculation of an unknown type announces a name that comes up before it. A table
has every total under a column if and only if it has no rows, or each calculation of an unknown type
announces a field of the rows. -/
theorem build_header {page' pageSize' : Int} {rows' ordered' : List Row} {table' : Table}
    (hnamed : IsNamed view calculations)
    (h : build view calculations page pageSize rows = .ok (table, ordered))
    (h' : build view calculations page' pageSize' rows' = .ok (table', ordered')) :
    (table.columns = table'.columns ↔
      (rows = [] ↔ rows' = []) ∨ fields view calculations = announced view calculations) ∧
    ((∀ before c after, calculations = before ++ c :: after → c.isSupported = false →
        c.output ∈ view.dimensions ++ view.measures.map (·.label) ++ Calculation.outputs before) →
      fields view calculations = announced view calculations) ∧
    ((∀ key ∈ table.totals.keys, key ∈ table.columns) ↔
      rows = [] ∨ ∀ c ∈ calculations, c.isSupported = false →
        c.output ∈ fields view calculations) ∧
    ((∀ key ∈ table'.totals.keys, key ∈ table'.columns) ↔
      rows' = [] ∨ ∀ c ∈ calculations, c.isSupported = false →
        c.output ∈ fields view calculations) := by
  refine ⟨?_, fields_eq_announced, totals_of_build hnamed h, totals_of_build hnamed h'⟩
  rw [columns_of_build hnamed h, columns_of_build hnamed h']
  by_cases hrows : rows = [] <;> by_cases hrows' : rows' = [] <;> simp [hrows, hrows', eq_comm]

/-- A calculation of a type that is not known. -/
def median (output : String) : Calculation := ⟨"median", "Median", output, .unsupported "MEDIAN"⟩

theorem exists_build_regional {calculations : List Calculation} {made : List Row}
    (hmade : (groupRows regionalSales rows >>= Calculation.applyAll calculations) = .ok made)
    (htotals : (columnTotals made (metricColumns regionalSales calculations)).toBool = true)
    (page pageSize : Int) :
    ∃ table, build regionalSales calculations page pageSize rows = .ok (table, made) := by
  obtain ⟨totals, htotals, -⟩ := Outcome.yields_of_toBool htotals
  exact build_eq_ok page pageSize (allRows_of_unsorted rfl hmade) htotals

/-- The sales of each region with the change of their total. -/
def regionalChanges : List Row := [
  .ofList [("region", .text "north"), ("total", .int 6), ("number", .int 3), ("least", .int (-4)),
    ("change", .int 0)],
  .ofList [("region", .text "south"), ("total", .int 5), ("number", .int 1), ("least", .int 5),
    ("change", .int (-1))]]

theorem build_header_regional :
    ∃ table table',
      build regionalSales [median "total", totalChange] 1 2 sales = .ok (table, regionalChanges) ∧
      build regionalSales [median "total", totalChange] 3 4 [] = .ok (table', []) ∧
      table.columns = table'.columns ∧ (∀ key ∈ table.totals.keys, key ∈ table.columns) ∧
      ∀ key ∈ table'.totals.keys, key ∈ table'.columns := by
  have hmade : (groupRows regionalSales sales >>=
      Calculation.applyAll [median "total", totalChange]) = .ok regionalChanges := by decide +kernel
  have hnone : (groupRows regionalSales [] >>=
      Calculation.applyAll [median "total", totalChange]) = .ok [] := by decide +kernel
  obtain ⟨table, h⟩ := exists_build_regional hmade (by decide +kernel) 1 2
  obtain ⟨table', h'⟩ := exists_build_regional hnone (by decide +kernel) 3 4
  have hnamed : IsNamed regionalSales [median "total", totalChange] := ⟨by decide, by decide⟩
  obtain ⟨hcolumns, hfields, htotals, htotals'⟩ := build_header hnamed h h'
  have hannounced : ∀ before c after, [median "total", totalChange] = before ++ c :: after →
      c.isSupported = false → c.output ∈ regionalSales.dimensions ++
        regionalSales.measures.map (·.label) ++ Calculation.outputs before := by
    intro before c after hsplit hunsupported
    have hc : c ∈ [median "total", totalChange] := by simp [hsplit]
    obtain rfl | rfl : c = median "total" ∨ c = totalChange := by simpa using hc
    · exact List.mem_append_left _ (by decide)
    · cases hunsupported
  exact ⟨table, table', h, h', hcolumns.2 (.inr (hfields hannounced)),
    htotals.2 (.inr (by decide +kernel)), htotals'.2 (.inl rfl)⟩

/-- A calculation of an unknown type has a total, though no row of the table has its output. -/
theorem exists_header_changed :
    ¬ ∀ (view : View) (calculations : List Calculation) (page pageSize page' pageSize' : Int)
      (rows rows' ordered ordered' : List Row) (table table' : Table),
      IsNamed view calculations →
      build view calculations page pageSize rows = .ok (table, ordered) →
      build view calculations page' pageSize' rows' = .ok (table', ordered') →
      table.columns = table'.columns ∧ (∀ key ∈ table.totals.keys, key ∈ table.columns) ∧
        ∀ key ∈ table'.totals.keys, key ∈ table'.columns := by
  intro hstable
  have hmade : (groupRows regionalSales sales >>=
      Calculation.applyAll [median "median", totalChange]) = .ok regionalChanges := by
    decide +kernel
  obtain ⟨table, h⟩ := exists_build_regional hmade (by decide +kernel) 1 2
  have hnamed : IsNamed regionalSales [median "median", totalChange] := ⟨by decide, by decide⟩
  obtain ⟨-, hkeys, -⟩ := hstable _ _ 1 2 1 2 _ _ _ _ _ _ hnamed h h
  obtain ⟨-, htotals, -, -⟩ := build_inv h
  rw [columns_of_build hnamed h, keys_columnTotals htotals] at hkeys
  revert hkeys
  decide +kernel

end Table

end Reporting
