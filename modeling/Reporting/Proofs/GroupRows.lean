import Reporting.Proofs.Columns

/-!
# The rows of groups

As long as dimension texts are free of separators, grouping makes one row for each tuple of
dimension texts, in order of first appearance (`groupRows_partition`). `Grouping.IsRowOf` says what
such a row holds: dimension cells of the first member of its group, and under each label what the
owner of the label, the last measure that bears it, makes of the numbers of all members.
-/

namespace Reporting

/-- Whether a measure is the last one under a label. Earlier ones are written over. -/
def Measure.Owns (measure : Measure) (label : String) (measures : List Measure) : Prop :=
  ∃ before after, measures = before ++ measure :: after ∧ measure.label = label ∧
    label ∉ after.map (·.label)

theorem Measure.exists_owner {label : String} {measures : List Measure}
    (h : label ∈ measures.map (·.label)) : ∃ measure : Measure, measure.Owns label measures := by
  induction measures with
  | nil => cases h
  | cons first rest ih =>
    by_cases hrest : label ∈ rest.map (·.label)
    · obtain ⟨measure, before, after, rfl, howns⟩ := ih hrest
      exact ⟨measure, first :: before, after, rfl, howns⟩
    · have hfirst : label = first.label := (List.mem_cons.1 h).resolve_right hrest
      exact ⟨first, [], rest, rfl, hfirst.symm, hrest⟩

namespace Grouping

/-! ## Tuples of dimension texts -/

/-- The dimension texts of a row, as long as they can be written. -/
def tuple (dimensions : List String) (row : Row) : List String :=
  dimensions.map fun field => (row.cell field).normalized.plainText

variable {dimensions : List String} {rows : List Row}

/-- The dimension texts of a row that can be written are those of its tuple. -/
theorem mapM_dimensionText {row : Row} (h : IsKeyable dimensions row) :
    dimensions.mapM (dimensionText row) = .ok (tuple dimensions row) :=
  Outcome.mapM_eq_ok_map fun field hfield => dimensionText_eq_ok.2 ⟨h field hfield, rfl⟩

/-- The key of a group, from its tuple. -/
def tupleKey (texts : List String) : String :=
  String.ofList (Text.joined [separator] (texts.map String.toList))

theorem plainKey_eq (row : Row) : plainKey dimensions row = tupleKey (tuple dimensions row) := by
  rw [plainKey, tupleKey, tuple, List.map_map]
  rfl

/-- Keys tell tuples apart, as long as these are free of separators. -/
theorem tuple_of_tupleKey {row other : Row} (hrow : IsParted dimensions row)
    (hother : IsParted dimensions other)
    (h : tupleKey (tuple dimensions row) = tupleKey (tuple dimensions other)) :
    tuple dimensions row = tuple dimensions other := by
  rw [← plainKey_eq, ← plainKey_eq] at h
  have htexts := texts_of_plainKey hrow hother h
  refine List.map_congr_left fun field hfield => ?_
  exact String.toList_inj.1 (List.map_inj_left.1 htexts field hfield)

/-! ## What a row holds -/

/-- What the row of a group holds: the dimension cells of the first member, and under each label the
aggregate that its owner forms over the members, in their order. A label takes the place of a
dimension of its name, and there are no other fields. -/
structure IsRowOf (view : View) (members : List Row) (row : Row) : Prop where
  fields : row.keys = firsts (view.dimensions ++ view.measures.map (·.label))
  dimension : ∃ first, members.head? = some first ∧
    ∀ field ∈ view.dimensions, field ∉ view.measures.map (·.label) →
      row.cell field = (first.cell field).normalized
  measure : ∀ label ∈ view.measures.map (·.label), ∃ (measure : Measure) (numbers : List Number)
      (aggregate : Number),
    measure.Owns label view.measures ∧
    members.mapM (fun member => (member.cell measure.field).toNumber) = .ok numbers ∧
    (Aggregation.ofName measure.aggregation).apply numbers = .ok aggregate ∧
    row.cell label = .number aggregate.integral

theorem isRowOf_groupRow {view : View} {members : List Row} {out : Row} (hmembers : members ≠ [])
    (h : groupRow view members = .ok out) : IsRowOf view members out where
  fields := keys_groupRow h
  dimension := by
    obtain ⟨first, rest, rfl⟩ := List.exists_cons_of_ne_nil hmembers
    refine ⟨first, rfl, fun field hfield hlabel => ?_⟩
    rw [cell_addMeasures_of_not_mem hlabel (groupRow_eq_ok.1 h).2, cell_plainCells _ hfield,
      List.headD_cons]
  measure label hlabel := by
    obtain ⟨measure, before, after, hmeasures, rfl, hlast⟩ := Measure.exists_owner hlabel
    obtain ⟨value, hvalue, hcell⟩ :=
      cell_addMeasures_last hlast (hmeasures ▸ (groupRow_eq_ok.1 h).2)
    obtain ⟨numbers, hnumbers, hvalue⟩ := Outcome.bind_eq_ok.1 hvalue
    obtain ⟨aggregate, haggregate, hvalue⟩ := Outcome.bind_eq_ok.1 hvalue
    obtain rfl := Outcome.pure_eq_ok.1 hvalue
    exact ⟨measure, numbers, aggregate, ⟨before, after, hmeasures, rfl, hlast⟩, hnumbers,
      haggregate, hcell⟩

end Grouping

/-! ## The partition -/

variable {view : View} {rows out : List Row}

/-- Grouping makes one row for each tuple of dimension texts. -/
theorem groupRows_eq_mapM_tuples
    (hkeyable : ∀ row ∈ rows, Grouping.IsKeyable view.dimensions row)
    (hparted : ∀ row ∈ rows, Grouping.IsParted view.dimensions row) :
    groupRows view rows =
      (firsts (rows.map (Grouping.tuple view.dimensions))).mapM fun texts =>
        Grouping.groupRow view (fiber (Grouping.tuple view.dimensions) rows texts) := by
  have hkey : Grouping.plainKey view.dimensions =
      Grouping.tupleKey ∘ Grouping.tuple view.dimensions := funext Grouping.plainKey_eq
  have hinj : ∀ row ∈ rows, ∀ other ∈ rows,
      Grouping.tupleKey (Grouping.tuple view.dimensions row) =
        Grouping.tupleKey (Grouping.tuple view.dimensions other) →
      Grouping.tuple view.dimensions row = Grouping.tuple view.dimensions other :=
    fun row hrow other hother =>
      Grouping.tuple_of_tupleKey (hparted row hrow) (hparted other hother)
  have hkeys : firsts (rows.map (Grouping.plainKey view.dimensions)) =
      (firsts (rows.map (Grouping.tuple view.dimensions))).map Grouping.tupleKey := by
    rw [hkey, ← List.map_map]
    refine firsts_map_of_injOn ?_
    simpa only [List.forall_mem_map] using hinj
  rw [groupRows_eq hkeyable, hkeys, List.mapM_map]
  refine Outcome.mapM_congr fun texts htexts => ?_
  obtain ⟨other, hother, rfl⟩ := List.mem_map.1 (mem_firsts.1 htexts)
  rw [Function.comp_apply, hkey, fiber_comp fun row hrow => hinj row hrow other hother]

/-- **Grouping is an exact partition.** As long as the dimension texts of all rows are free of
separators, a successful grouping gives one row for each distinct tuple of these texts, in order of
first appearance, and it is the row of exactly the members with that tuple, in their order. -/
theorem groupRows_partition (hparted : ∀ row ∈ rows, Grouping.IsParted view.dimensions row)
    (h : groupRows view rows = .ok out) :
    (∀ row ∈ rows, view.dimensions.mapM (Grouping.dimensionText row) =
      .ok (Grouping.tuple view.dimensions row)) ∧
    List.Forall₂ (fun texts row =>
        Grouping.IsRowOf view (fiber (Grouping.tuple view.dimensions) rows texts) row)
      (firsts (rows.map (Grouping.tuple view.dimensions))) out := by
  have hkeyable := isKeyable_of_groupRows h
  refine ⟨fun row hrow => Grouping.mapM_dimensionText (hkeyable row hrow), ?_⟩
  rw [groupRows_eq_mapM_tuples hkeyable hparted] at h
  exact Outcome.forall₂_of_mapM
    (fun texts htexts row hrow => Grouping.isRowOf_groupRow (fiber_ne_nil htexts) hrow) h

/-- Sales with a region or without one, in years that are numbers or texts. -/
def looseSales : List Row := [
  .ofList [("region", .text "north"), ("year", .int 2024), ("amount", .int 3)],
  .ofList [("year", .int 2024), ("amount", .int 5)],
  .ofList [("region", .text "north"), ("year", .text "2024"), ("amount", .text "7 EUR")],
  .ofList [("region", .null), ("year", .int 2024), ("amount", .bool true)]]

/-- The sales of each region by year, with a label that takes the place of the year and one that two
measures bear. -/
def crowdedSales : View :=
  { monthlySales with
    columnFields := ["year"]
    measures := [⟨"amount", "number", "avg", none⟩, ⟨"amount", "year", "sum", none⟩,
      ⟨"amount", "number", "count", none⟩] }

theorem groupRows_partition_crowded :
    ∃ out, groupRows crowdedSales looseSales = .ok out ∧
      out.map (fun row => (row.cell "region", row.cell "year", row.cell "number")) =
        [(.text "north", .int 10, .int 2), (.null, .int 5, .int 2)] ∧
      List.Forall₂ (fun texts row => Grouping.IsRowOf crowdedSales
          (fiber (Grouping.tuple ["region", "year"]) looseSales texts) row)
        [["north", "2024"], ["", "2024"]] out := by
  have hparted : ∀ row ∈ looseSales, Grouping.IsParted crowdedSales.dimensions row := by
    decide +kernel
  have hgrouped : (groupRows crowdedSales looseSales).map (fun out => out.map fun row =>
      (row.cell "region", row.cell "year", row.cell "number")) =
        .ok [(.text "north", .int 10, .int 2), (.null, .int 5, .int 2)] := by decide +kernel
  obtain ⟨out, hout, hcells⟩ := Outcome.map_eq_ok.1 hgrouped
  have htuples : firsts (looseSales.map (Grouping.tuple crowdedSales.dimensions)) =
      [["north", "2024"], ["", "2024"]] := by decide +kernel
  exact ⟨out, hout, hcells, htuples ▸ (groupRows_partition hparted hout).2⟩

end Reporting
