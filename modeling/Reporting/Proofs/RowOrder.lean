import Reporting.Proofs.Columns

/-!
# The order of the rows that are grouped

An aggregate of integers is the same for every order of the members of a group
(`Grouping.measureValue_perm`). So grouping permuted rows, whose groups come up in another order and
with other first members, succeeds exactly if grouping the rows does, and gives rows of the same
keys with the same values under all labels (`groupRows_perm`).
-/

namespace Reporting

theorem fiber_perm {α κ : Type} [DecidableEq κ] {items others : List α} (h : items.Perm others)
    (key : α → κ) (k : κ) : (fiber key items k).Perm (fiber key others k) :=
  h.filter _

namespace Grouping

variable {members others : List Row}

/-- Whether the fields of the measures count as integers in all rows. -/
def HasIntegers (measures : List Measure) (rows : List Row) : Prop :=
  ∀ measure ∈ measures, ∀ row ∈ rows, ∃ n : Int, (row.cell measure.field).toNumber = .ok (.int n)

theorem HasIntegers.subset {measures : List Measure} {rows : List Row}
    (h : HasIntegers measures rows) (hsub : members ⊆ rows) : HasIntegers measures members :=
  fun measure hmeasure row hrow => h measure hmeasure row (hsub hrow)

/-- A measure of integers does not depend on the order of the members. -/
theorem measureValue_perm {measure : Measure} (hperm : members.Perm others)
    (hints : ∀ row ∈ members, ∃ n : Int, (row.cell measure.field).toNumber = .ok (.int n)) :
    measureValue members measure = measureValue others measure := by
  choose! amount hamount using hints
  have hnumbers : ∀ rows : List Row, rows ⊆ members →
      rows.mapM (fun row => (row.cell measure.field).toNumber) =
        .ok ((rows.map amount).map .int) := by
    intro rows hsub
    rw [List.map_map]
    exact Outcome.mapM_eq_ok_map fun row hrow => hamount row (hsub hrow)
  rw [measureValue, measureValue, hnumbers members (fun _ => id),
    hnumbers others hperm.symm.subset, Outcome.ok_bind, Outcome.ok_bind,
    Aggregation.apply_perm _ (hperm.map amount)]

/-- Measures with the same values write the same cells to any two rows. -/
theorem get?_addMeasures_congr (start' : Row) {measures : List Measure} {start out : Row}
    (hvalue : ∀ measure ∈ measures, measureValue members measure = measureValue others measure)
    (h : addMeasures members measures start = .ok out) :
    ∃ out', addMeasures others measures start' = .ok out' ∧ ∀ label,
      (label ∈ measures.map (·.label) ∨ ∃ n, start.get? label = some (.number n) ∧
        start'.get? label = some (.number n)) →
      ∃ n, out.get? label = some (.number n) ∧ out'.get? label = some (.number n) := by
  induction measures generalizing start start' with
  | nil =>
    obtain rfl := Outcome.pure_eq_ok.1 h
    exact ⟨start', rfl, fun label hlabel => hlabel.resolve_left (by simp)⟩
  | cons measure rest ih =>
    obtain ⟨value, hfirst, h⟩ := addMeasures_cons_eq_ok.1 h
    obtain ⟨out', hout', hcells⟩ := ih (start'.put measure.label (.number value))
      (fun m hm => hvalue m (List.mem_cons_of_mem measure hm)) h
    refine ⟨out', addMeasures_cons_eq_ok.2 ⟨value, ?_, hout'⟩, fun label hlabel => hcells label ?_⟩
    · rw [← hvalue measure List.mem_cons_self, hfirst]
    · by_cases hown : measure.label = label
      · exact .inr ⟨value, by simp [hown], by simp [hown]⟩
      · simpa [hown, Ne.symm hown] using hlabel

/-- The members of a group in another order make a row with the same cells under all labels. -/
theorem groupRow_perm {view : View} {out : Row} (hperm : members.Perm others)
    (hints : HasIntegers view.measures members)
    (hkeyable : ∀ row ∈ others, IsKeyable view.dimensions row)
    (h : groupRow view members = .ok out) :
    ∃ out', groupRow view others = .ok out' ∧ ∀ label ∈ view.measures.map (·.label),
      ∃ n, out.get? label = some (.number n) ∧ out'.get? label = some (.number n) := by
  obtain ⟨out', hout', hcells⟩ := get?_addMeasures_congr
    (plainCells view.dimensions (others.headD .empty))
    (fun measure hmeasure => measureValue_perm hperm (hints measure hmeasure))
    (groupRow_eq_ok.1 h).2
  refine ⟨out', groupRow_eq_ok.2 ⟨fun field hfield => ?_, hout'⟩,
    fun label hlabel => hcells label (.inl hlabel)⟩
  cases others with
  | nil => trivial
  | cons first rest => exact .of_isWritable (hkeyable first List.mem_cons_self field hfield)

end Grouping

/-! ## Totals of groups -/

/-- Integers under the same keys add up to the same total, however the keys are ordered. -/
theorem columnTotal_keys_perm {keys keys' : List String} {rowOf rowOf' : String → Row}
    {column : String} {total total' : Number} (hperm : keys.Perm keys')
    (hcells : ∀ k ∈ keys, (rowOf k).cell column = (rowOf' k).cell column)
    (hints : ∀ k ∈ keys, ∃ n, (rowOf k).cell column = .int n)
    (h : columnTotal (keys.map rowOf) column = .ok total)
    (h' : columnTotal (keys'.map rowOf') column = .ok total') : total = total' := by
  have hsame : (keys.map fun k => ((rowOf k).cell column).written).Perm
      (keys'.map fun k => ((rowOf' k).cell column).written) := by
    rw [List.map_congr_left fun k hk => congrArg Value.written (hcells k hk)]
    exact hperm.map _
  have hints' : ∀ k ∈ keys', ∃ n, (rowOf' k).cell column = .int n := fun k hk =>
    hcells k (hperm.symm.subset hk) ▸ hints k (hperm.symm.subset hk)
  rw [eq_of_columnTotal (List.forall_mem_map.2 hints) h,
    eq_of_columnTotal (List.forall_mem_map.2 hints') h', List.map_map, List.map_map]
  exact congrArg Number.int hsame.sum_eq

/-! ## Grouping -/

/-- **Aggregation does not depend on the order of the rows.** Where the fields of all measures count
as integers, permuted rows are grouped as well, into groups of the same keys, which have the same
number under every label. So the total of a label is the same too, if these numbers are integers. -/
theorem groupRows_perm {view : View} {rows others out : List Row} (hperm : rows.Perm others)
    (hints : Grouping.HasIntegers view.measures rows) (h : groupRows view rows = .ok out) :
    ∃ out', groupRows view others = .ok out' ∧
      (∃ (keys keys' : List String) (rowOf rowOf' : String → Row),
        rows.mapM (Grouping.key view.dimensions) = .ok keys ∧
        others.mapM (Grouping.key view.dimensions) = .ok keys' ∧
        (firsts keys).Perm (firsts keys') ∧
        out = (firsts keys).map rowOf ∧ out' = (firsts keys').map rowOf' ∧
        ∀ k ∈ keys, ∀ label ∈ view.measures.map (·.label), ∃ n,
          (rowOf k).get? label = some (.number n) ∧ (rowOf' k).get? label = some (.number n)) ∧
      ∀ columns totals totals', columnTotals out columns = .ok totals →
        columnTotals out' columns = .ok totals' →
        ∀ label ∈ columns, label ∈ view.measures.map (·.label) →
          (∀ row ∈ out, ∃ n, row.cell label = .int n) →
          ∃ total, totals.get? label = some total ∧ totals'.get? label = some total := by
  let key := Grouping.plainKey view.dimensions
  have hkeyable := isKeyable_of_groupRows h
  have hkeyable' : ∀ row ∈ others, Grouping.IsKeyable view.dimensions row := fun row hrow =>
    hkeyable row (hperm.symm.subset hrow)
  have hkeys : (firsts (rows.map key)).Perm (firsts (others.map key)) := firsts_perm (hperm.map key)
  rw [groupRows_eq hkeyable] at h
  obtain ⟨rowOf, rfl, hrowOf⟩ := Outcome.exists_map_of_mapM h
  have hothers : ∀ k ∈ firsts (rows.map key), ∃ row',
      Grouping.groupRow view (fiber key others k) = .ok row' ∧
      ∀ label ∈ view.measures.map (·.label), ∃ n,
        (rowOf k).get? label = some (.number n) ∧ row'.get? label = some (.number n) :=
    fun k hk => Grouping.groupRow_perm (fiber_perm hperm key k)
      (hints.subset fun row hrow => (mem_fiber.1 hrow).1)
      (fun row hrow => hkeyable' row (mem_fiber.1 hrow).1) (hrowOf k hk)
  choose! rowOf' hrowOf' hcells using hothers
  refine ⟨(firsts (others.map key)).map rowOf', ?_, ⟨rows.map key, others.map key, rowOf, rowOf',
    Outcome.mapM_eq_ok_map fun row hrow => Grouping.key_of_isKeyable (hkeyable row hrow),
    Outcome.mapM_eq_ok_map fun row hrow => Grouping.key_of_isKeyable (hkeyable' row hrow),
    hkeys, rfl, rfl, fun k hk => hcells k (mem_firsts.2 hk)⟩, ?_⟩
  · rw [groupRows_eq hkeyable']
    exact Outcome.mapM_eq_ok_map fun k hk => hrowOf' k (hkeys.symm.subset hk)
  · intro columns totals totals' htotals htotals' label hcolumn hlabel hcolumnInts
    obtain ⟨total, htotal, hget⟩ := get?_columnTotals htotals hcolumn
    obtain ⟨total', htotal', hget'⟩ := get?_columnTotals htotals' hcolumn
    have hsame : ∀ k ∈ firsts (rows.map key), (rowOf k).cell label = (rowOf' k).cell label := by
      intro k hk
      obtain ⟨n, hn, hn'⟩ := hcells k hk label hlabel
      rw [Keyed.cell, Keyed.cell, hn, hn']
    have hlabelInts : ∀ k ∈ firsts (rows.map key), ∃ n, (rowOf k).cell label = .int n :=
      fun k hk => hcolumnInts (rowOf k) (List.mem_map_of_mem hk)
    obtain rfl := columnTotal_keys_perm hkeys hsame hlabelInts htotal htotal'
    exact ⟨total, hget, hget'⟩

/-- The sales with the first of them behind the others. -/
def movedSales : List Row := sales.drop 1 ++ sales.take 1

/-- The names of all aggregations and one that is not known. -/
def surveyNames : List String :=
  ["sum", "avg", "min", "max", "count", "distinct_count", "median"]

/-- The sales of each region, aggregated in every way. -/
def surveyedSales : View :=
  { monthlySales with
    columnFields := []
    measures := surveyNames.map fun name => ⟨"amount", name, name, none⟩ }

/-- The aggregates of each region, as rows. -/
def surveyedRows : List Row :=
  [("north", [6, 2, -4, 7, 3, 3, 6]), ("south", [5, 5, 5, 5, 1, 1, 5])].map fun entry =>
    .ofList (("region", .text entry.1) :: surveyNames.zip (entry.2.map .int))

theorem groupRows_perm_sales :
    groupRows surveyedSales sales = .ok surveyedRows ∧
    groupRows surveyedSales movedSales = .ok surveyedRows.reverse ∧
    (∃ (keys keys' : List String) (rowOf rowOf' : String → Row),
      sales.mapM (Grouping.key ["region"]) = .ok keys ∧
      movedSales.mapM (Grouping.key ["region"]) = .ok keys' ∧
      (firsts keys).Perm (firsts keys') ∧
      surveyedRows = (firsts keys).map rowOf ∧ surveyedRows.reverse = (firsts keys').map rowOf' ∧
      ∀ k ∈ keys, ∀ label ∈ surveyedSales.measures.map (·.label), ∃ n,
        (rowOf k).get? label = some (.number n) ∧ (rowOf' k).get? label = some (.number n)) ∧
    ∃ totals totals' total, columnTotals surveyedRows surveyNames = .ok totals ∧
      columnTotals surveyedRows.reverse surveyNames = .ok totals' ∧
      totals.get? "avg" = some total ∧ totals'.get? "avg" = some total := by
  have hread : ∀ measure ∈ surveyedSales.measures, ∀ row ∈ sales,
      (row.cell measure.field).toNumber = .ok (.int (row.cell measure.field).written) := by
    decide +kernel
  have hgrouped : groupRows surveyedSales sales = .ok surveyedRows := by decide +kernel
  have hreversed : groupRows surveyedSales movedSales = .ok surveyedRows.reverse := by
    decide +kernel
  have htotals : ∀ rows ∈ [surveyedRows, surveyedRows.reverse],
      columnTotals rows surveyNames =
        .ok (.ofList (surveyNames.zip ([11, 7, 1, 12, 4, 4, 11].map Number.int))) := by
    decide +kernel
  have hmoved : (sales.take 1 ++ sales.drop 1).Perm movedSales := List.perm_append_comm
  obtain ⟨out', hout', hgroups, hsame⟩ := groupRows_perm hmoved
    (fun measure hmeasure row hrow => ⟨_, hread measure hmeasure row hrow⟩) hgrouped
  obtain rfl := Except.ok.inj (hreversed.symm.trans hout')
  have hints : ∀ row ∈ surveyedRows, row.cell "avg" = .int (row.cell "avg").written := by
    decide +kernel
  obtain ⟨total, htotal⟩ := hsame _ _ _ (htotals _ (by simp)) (htotals _ (by simp)) "avg"
    (by decide) (by decide) fun row hrow => ⟨_, hints row hrow⟩
  exact ⟨hgrouped, hreversed, hgroups, _, _, total, htotals _ (by simp), htotals _ (by simp),
    htotal⟩

end Reporting
