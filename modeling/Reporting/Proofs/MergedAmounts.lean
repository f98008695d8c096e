import Reporting.Proofs.Merging

/-!
# What merging keeps

Merging fails only where a row has no name to go under, or the cells of some field of a bucket
cannot be folded (`Merge.exists_mergeRows_iff`), as amounts and labels always can. It makes one row
of each bucket, in the order in which the buckets first come up. The amounts of a field add up to
the same sum as before, and a field of labels has the first label of the bucket
(`Merge.mergeRows_conserves`).
-/

namespace Reporting.Merge

/-! ## When merging succeeds -/

section Success

variable {key : String} {rows : List Row} {existing row : Row}

/-- A row can be folded into another if each of its cells can. -/
theorem exists_foldRow_iff :
    (∃ out, foldRow existing row = .ok out) ↔
      ∀ field, ∃ cell, foldGet (existing.get? field) (row.get? field) = .ok cell := by
  refine ⟨fun ⟨out, h⟩ field => ⟨_, foldGet_foldRow h field⟩, fun h => ?_⟩
  have hnodup := row.nodup
  rw [foldRow]
  change ∀ field, ∃ cell, foldGet _ (Keyed.find? field row.entries) = .ok cell at h
  generalize row.entries = entries at h hnodup ⊢
  induction entries generalizing existing with
  | nil => exact ⟨existing, rfl⟩
  | cons entry entries ih =>
    obtain ⟨name, cell⟩ := entry
    obtain ⟨habsent, hnodup⟩ := List.nodup_cons.1 hnodup
    -- Each of the other entries meets the cell that it would have met first.
    have hrest : ∀ value, ∀ field, ∃ cell,
        foldGet ((existing.put name value).get? field) (Keyed.find? field entries) = .ok cell := by
      intro value field
      by_cases hname : name = field
      · rw [← hname, Keyed.find?_eq_none habsent]
        exact ⟨_, foldGet_none _⟩
      · obtain ⟨cell, hcell⟩ := h field
        rw [Keyed.find?_cons_of_ne hname] at hcell
        rw [Keyed.get?_put, if_neg hname]
        exact ⟨cell, hcell⟩
    obtain ⟨folded, hfolded⟩ := h name
    rw [Keyed.find?_cons_self] at hfolded
    rw [List.foldlM_cons]
    cases hcurrent : existing.get? name with
    | none => exact ih (hrest cell) hnodup
    | some current =>
      rw [hcurrent, foldGet] at hfolded
      obtain ⟨value, hvalue, -⟩ := Outcome.map_eq_ok.1 hfolded
      dsimp only
      rw [hvalue]
      exact ih (hrest value) hnodup

/-- Rows can be merged if the cells of each field can. -/
theorem exists_merged_iff :
    (∃ out, merged rows = .ok out) ↔
      ∀ field, ∃ cell, foldCells (rows.map (·.get? field)) = .ok cell := by
  refine ⟨fun ⟨out, h⟩ field => ⟨_, foldCells_merged h field⟩, fun h => ?_⟩
  cases rows with
  | nil => exact ⟨_, rfl⟩
  | cons first rest =>
    change ∀ field, ∃ cell, (rest.map (·.get? field)).foldlM foldGet (first.get? field) = .ok cell
      at h
    change ∃ out, rest.foldlM foldRow first = .ok out
    induction rest generalizing first with
    | nil => exact ⟨first, rfl⟩
    | cons row rest ih =>
      have hcells : ∀ field, ∃ cell, foldGet (first.get? field) (row.get? field) = .ok cell := by
        intro field
        obtain ⟨cell, hcell⟩ := h field
        rw [List.map_cons, List.foldlM_cons] at hcell
        obtain ⟨next, hnext, -⟩ := Outcome.bind_eq_ok.1 hcell
        exact ⟨next, hnext⟩
      obtain ⟨next, hnext⟩ := exists_foldRow_iff.2 hcells
      rw [List.foldlM_cons, hnext, Outcome.ok_bind]
      refine ih next fun field => ?_
      obtain ⟨cell, hcell⟩ := h field
      rw [List.map_cons, List.foldlM_cons, foldGet_foldRow hnext, Outcome.ok_bind] at hcell
      exact ⟨cell, hcell⟩

/-- The names of the buckets that rows go to, by first appearance. -/
def bucketNames (key : String) (rows : List Row) : List String :=
  firsts (rows.zipIdx.map (bucketOf key))

/-- **Merging succeeds if all rows have names and the cells of each field can be folded in each
bucket.** -/
theorem exists_mergeRows_iff :
    (∃ out, mergeRows key rows = .ok out) ↔
      (∀ row ∈ rows, HasName key row) ∧
        ∀ name ∈ bucketNames key rows, ∀ field, ∃ cell,
          foldCells ((members key 0 rows name).map (·.get? field)) = .ok cell := by
  simp only [mergeRows_eq_ok, exists_and_left, Outcome.exists_mapM_iff, exists_merged_iff,
    bucketNames]

end Success

/-! ## Labels -/

/-- A cell that holds a text or nothing. -/
inductive IsLabel : Value → Prop
  | null : IsLabel .null
  | text (s : String) : IsLabel (.text s)

/-- The text that a cell holds, if it is one with something in it. -/
def label? : Value → Option String
  | .text s => if s = "" then none else some s
  | _ => none

/-- The texts that rows hold in a field. -/
def labels (field : String) (rows : List Row) : List String :=
  rows.filterMap fun row => label? (row.cell field)

/-- Folding keeps the first label. -/
theorem folds_labels : Folds IsLabel label? fun first _ => first where
  null := .null
  read_null := rfl
  foldCell {current value} hcurrent hvalue := by
    cases hcurrent with
    | null => exact ⟨value, rfl, hvalue, (Option.merge_none_left).symm⟩
    | text s =>
      by_cases hs : s = ""
      · refine ⟨value, by simp [Merge.foldCell, hs], hvalue, ?_⟩
        simp [label?, hs]
      · refine ⟨.text s, by simp [Merge.foldCell, hs], .text s, ?_⟩
        cases hlabel : label? value <;> simp [label?, hs]

theorem foldl_merge_labels (field : String) (rows : List Row) (start : Option String) :
    (rows.map fun row => label? (row.cell field)).foldl (Option.merge fun first _ => first) start =
      start.or (labels field rows).head? := by
  induction rows generalizing start with
  | nil => simp [labels]
  | cons row rows ih =>
    rw [List.map_cons, List.foldl_cons, ih]
    cases start <;> cases hlabel : label? (row.cell field) <;> simp [labels, hlabel]

/-- A label of merged rows is the first of theirs. -/
theorem label?_merged {field : String} {rows : List Row} {out : Row}
    (hrows : ∀ row ∈ rows, IsLabel (row.cell field)) (h : merged rows = .ok out) :
    label? (out.cell field) = (labels field rows).head? := by
  rw [(folds_labels.merged hrows h).2, foldl_merge_labels, Option.none_or]

/-! ## Conservation -/

theorem total?_getD (ns : List Int) : (total? ns).getD 0 = ns.sum := by
  cases ns <;> simp [total?]

/-- Cells that hold no integer add nothing. -/
theorem sum_amounts (field : String) (rows : List Row) :
    (amounts field rows).sum = (rows.map fun row => (amount? (row.cell field)).getD 0).sum := by
  induction rows with
  | nil => rfl
  | cons row rows ih =>
    rw [List.map_cons, List.sum_cons, ← ih]
    cases hamount : amount? (row.cell field) <;> simp [amounts, hamount]

section Conservation

variable {key field : String} {rows out : List Row}

theorem mem_of_mem_members {name : String} {row : Row} (h : row ∈ members key 0 rows name) :
    row ∈ rows := by
  obtain ⟨placed, hplaced, rfl⟩ := List.mem_map.1 h
  exact List.fst_mem_of_mem_zipIdx (mem_fiber.1 hplaced).1

/-- **Merging conserves the sum of amounts**: each goes to one bucket and is added up there. -/
theorem sum_amounts_mergeRows (hrows : ∀ row ∈ rows, IsAmount (row.cell field))
    (h : mergeRows key rows = .ok out) : (amounts field out).sum = (amounts field rows).sum := by
  obtain ⟨rowOf, rfl, hrowOf⟩ := Outcome.exists_map_of_mapM (mergeRows_eq_ok.1 h).2
  have hbucket : ∀ name ∈ bucketNames key rows, (amount? ((rowOf name).cell field)).getD 0 =
      ((fiber (bucketOf key) rows.zipIdx name).map fun placed =>
        (amount? (placed.1.cell field)).getD 0).sum := by
    intro name hname
    have hmembers : ∀ row ∈ members key 0 rows name, IsAmount (row.cell field) :=
      fun row hrow => hrows row (mem_of_mem_members hrow)
    rw [(amount?_merged hmembers (hrowOf name hname)).2, total?_getD, sum_amounts, members,
      List.map_map]
    rfl
  calc (amounts field ((bucketNames key rows).map rowOf)).sum
      = ((bucketNames key rows).map fun name =>
          (amount? ((rowOf name).cell field)).getD 0).sum := by
        rw [sum_amounts, List.map_map]
        rfl
    _ = (rows.zipIdx.map fun placed => (amount? (placed.1.cell field)).getD 0).sum := by
        rw [List.map_congr_left hbucket]
        exact sum_map_fiber (bucketOf key) rows.zipIdx _
    _ = (amounts field rows).sum := by
        rw [sum_amounts]
        conv_rhs => rw [← List.zipIdx_map_fst 0 rows, List.map_map]
        rfl

end Conservation

/-- Rows that came of merging others: one of each bucket, in the order in which the buckets first
come up, with the sums of amounts and the first labels. -/
structure Conserved (key : String) (rows out : List Row) : Prop where
  length_le : out.length ≤ rows.length
  folded : List.Forall₂ (fun name row => merged (members key 0 rows name) = .ok row)
    (bucketNames key rows) out
  /-- A field that holds amounts in all rows has the same sum as before. -/
  amounts : ∀ field, (∀ row ∈ rows, IsAmount (row.cell field)) →
    (amounts field out).sum = (amounts field rows).sum
  /-- A field that holds labels in all rows has the first label of each bucket. -/
  labels : ∀ field, (∀ row ∈ rows, IsLabel (row.cell field)) →
    List.Forall₂ (fun name row =>
      label? (row.cell field) = (labels field (members key 0 rows name)).head?)
      (bucketNames key rows) out

/-- **Merging conserves amounts and keeps first labels.** It succeeds exactly if all rows have names
to go under and the cells of each field can be folded in each bucket, as amounts and labels always
can. -/
theorem mergeRows_conserves (key : String) (rows : List Row) :
    ((∃ out, mergeRows key rows = .ok out) ↔
      (∀ row ∈ rows, HasName key row) ∧
        ∀ name ∈ bucketNames key rows, ∀ field, ∃ cell,
          foldCells ((members key 0 rows name).map (·.get? field)) = .ok cell) ∧
    ((∀ row ∈ rows, HasName key row) →
      (∀ field, (∀ row ∈ rows, IsAmount (row.cell field)) ∨
        ∀ row ∈ rows, IsLabel (row.cell field)) →
      ∃ out, mergeRows key rows = .ok out) ∧
    ∀ out, mergeRows key rows = .ok out → Conserved key rows out := by
  refine ⟨exists_mergeRows_iff, fun hnamed hkinds => ?_, fun out h => ?_⟩
  · refine exists_mergeRows_iff.2 ⟨hnamed, fun name _ field => ?_⟩
    have hcells : ∀ {kind : Value → Prop}, (∀ row ∈ rows, kind (row.cell field)) →
        ∀ cell ∈ (members key 0 rows name).map (·.get? field), kind (cell.getD .null) :=
      fun hrows => List.forall_mem_map.2 fun row hrow => hrows row (mem_of_mem_members hrow)
    rcases hkinds field with hamounts | hlabels
    · obtain ⟨folded, hfolded, -⟩ := folds_amounts.foldCells (hcells hamounts)
      exact ⟨folded, hfolded⟩
    · obtain ⟨folded, hfolded, -⟩ := folds_labels.foldCells (hcells hlabels)
      exact ⟨folded, hfolded⟩
  · have hbuckets : List.Forall₂ (fun name row => merged (members key 0 rows name) = .ok row)
        (bucketNames key rows) out := Outcome.mapM_eq_ok.1 (mergeRows_eq_ok.1 h).2
    refine ⟨?_, hbuckets, fun field hrows => sum_amounts_mergeRows hrows h, fun field hrows => ?_⟩
    · calc out.length
          = (bucketNames key rows).length := hbuckets.length_eq.symm
        _ ≤ (rows.zipIdx.map (bucketOf key)).length := (firsts_sublist _).length_le
        _ = rows.length := by rw [List.length_map, List.length_zipIdx]
    · exact hbuckets.imp fun name row hrow =>
        label?_merged (fun member hmember => hrows member (mem_of_mem_members hmember)) hrow

/-- A row of a dataset with a title and an amount for a project, any of which may be missing. -/
def titledRow (dataset project title amount : Value) : Row :=
  .ofList [("dataset_id", dataset), ("project_id", project), ("title", title), ("amount", amount)]

/-- Rows of one project, one of them a note whose made name is the key of the others, and a row that
is alone in its bucket. -/
def titledRows : List Row := [
  titledRow (.text "sales") (.text "notes-1") (.text "") (.int 1),
  titledRow (.text "notes") .null (.text "Garden") (.int 2),
  titledRow .null .null .null (.text ""),
  (titledRow (.text "costs") (.text "notes-1") (.text "Yard") .null).put "amount" (.int (-5))]

/-- The titled rows, merged. -/
def mergedTitles : List Row := [
  titledRow (.text "sales") (.text "notes-1") (.text "Garden") (.int (-2)),
  titledRow .null .null .null (.text "")]

theorem mergeRows_conserves_titled :
    mergeRows defaultKey titledRows = .ok mergedTitles ∧
    bucketNames defaultKey titledRows = ["notes-1", "dataset-2"] ∧
    (amounts "amount" mergedTitles).sum = (amounts "amount" titledRows).sum ∧
    List.Forall₂ (fun name row =>
      label? (row.cell "title") = (labels "title" (members defaultKey 0 titledRows name)).head?)
      ["notes-1", "dataset-2"] mergedTitles := by
  have hmerged : mergeRows defaultKey titledRows = .ok mergedTitles := by decide +kernel
  have hnames : bucketNames defaultKey titledRows = ["notes-1", "dataset-2"] := by decide +kernel
  have hkept : Conserved defaultKey titledRows mergedTitles :=
    (mergeRows_conserves defaultKey titledRows).2.2 _ hmerged
  refine ⟨hmerged, hnames, hkept.amounts "amount" ?_, hnames ▸ hkept.labels "title" ?_⟩
  · simp only [titledRows, List.forall_mem_cons]
    exact ⟨.int 1, .int 2, .empty, .int (-5), List.forall_mem_nil _⟩
  · simp only [titledRows, List.forall_mem_cons]
    exact ⟨.text "", .text "Garden", .null, .text "Yard", List.forall_mem_nil _⟩

/-- A row of a project with an amount and a share. -/
def sharedRow (amount : Int) (share : Number) : Row :=
  .ofList [("project_id", .text "garden"), ("amount", .int amount), ("share", .number share)]

/-- Two rows of a project, the shares of which cannot be added up. -/
def unsharedRows : List Row :=
  [sharedRow 1 (.int (10 ^ 400)), sharedRow 2 (.double (.ofDecimal false 5 (-1)))]

/-- Rows whose amounts could be added up may fail to merge because of another field. -/
theorem exists_amounts_lost :
    ¬ ∀ (key field : String) (rows : List Row), (∀ row ∈ rows, IsAmount (row.cell field)) →
      ∃ out, mergeRows key rows = .ok out ∧
        (amounts field out).sum = (amounts field rows).sum := by
  intro h
  obtain ⟨out, hout, -⟩ := h defaultKey "amount" unsharedRows (by
    simp only [unsharedRows, List.forall_mem_cons]
    exact ⟨.int 1, .int 2, List.forall_mem_nil _⟩)
  have hfails : mergeRows defaultKey unsharedRows = .error .overflow := by decide +kernel
  cases hfails.symm.trans hout

end Reporting.Merge
