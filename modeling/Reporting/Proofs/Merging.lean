import Mathlib.Data.List.Sigma
import Reporting.Dataset.Merge
import Reporting.Proofs.NumberChars
import Reporting.Proofs.Outcome
import Reporting.Proofs.Partition

/-!
# Merging rows by a key

Merging folds rows into buckets and makes one row of each (`Merge.mergeRows_eq_ok`), which holds
the sums of their amounts (`Merge.amount?_merged`). Rows that share a key share a bucket. A row
without a key goes under a name made from its dataset and its position, if that can be written
(`Merge.HasName`). It is made for no other row (`Merge.eq_of_bucketOf`), but may be the key of one.
The rows without a key stay separate exactly if that does not happen (`Merge.mergeRows_separated`).
-/

namespace Reporting

/-- The values of a table are those of its keys, in order. -/
theorem Keyed.forall₂_keys_values {α : Type} (t : Keyed α) :
    List.Forall₂ (fun key value => t.get? key = some value) t.keys t.values := by
  rw [keys, values, List.forall₂_map_left_iff, List.forall₂_map_right_iff, List.forall₂_same]
  exact fun entry hentry => get?_eq_some_iff.2 hentry

namespace Merge

/-! ## Buckets -/

/-- Rows folded into the first of them, one after the other. -/
def merged : List Row → Outcome Row
  | [] => .ok .empty
  | first :: rest => rest.foldlM foldRow first

/-- The name of the dataset of a row, as long as it can be written. -/
def fullDatasetName (row : Row) : String :=
  if isNothing (row.cell "dataset_id") then "dataset" else (row.cell "dataset_id").fullText

/-- The name under which a row with its position is folded, as long as it can be written. -/
def bucketOf (key : String) (placed : Row × Nat) : String :=
  (key? key placed.1).getD (fullDatasetName placed.1 ++ "-" ++ toString placed.2)

/-- Whether a row can be folded under a name: one without a key needs its dataset to be written. -/
def HasName (key : String) (row : Row) : Prop :=
  key? key row ≠ none ∨ isNothing (row.cell "dataset_id") = true ∨
    (row.cell "dataset_id").IsWritable

instance (key : String) (row : Row) : Decidable (HasName key row) :=
  inferInstanceAs (Decidable (_ ∨ _ ∨ _))

theorem datasetName_eq (row : Row) :
    datasetName row =
      if isNothing (row.cell "dataset_id") = true ∨ (row.cell "dataset_id").IsWritable then
        .ok (fullDatasetName row)
      else .error .tooManyDigits := by
  by_cases hnothing : isNothing (row.cell "dataset_id") = true
  · simp only [datasetName, fullDatasetName, hnothing, if_true, true_or]
  · simp only [datasetName, fullDatasetName, hnothing, Bool.false_eq_true, if_false, false_or,
      Value.printed]

theorem bucket_eq (key : String) (position : Nat) (row : Row) :
    bucket key position row =
      if HasName key row then .ok (bucketOf key (row, position)) else .error .tooManyDigits := by
  cases hkey : key? key row with
  | some k =>
    have hnamed : HasName key row := .inl (by simp [hkey])
    simp only [bucket, bucketOf, hkey, if_pos hnamed, Option.getD_some]
  | none =>
    simp only [bucket, bucketOf, HasName, hkey, madeName, datasetName_eq, ne_eq, not_true_eq_false,
      false_or, Option.getD_none]
    split <;> rfl

theorem bucket_eq_ok {key : String} {position : Nat} {row : Row} {name : String} :
    bucket key position row = .ok name ↔
      HasName key row ∧ bucketOf key (row, position) = name := by
  by_cases hnamed : HasName key row <;> simp [bucket_eq, hnamed]

/-- The rows from a position on that are folded under a name. -/
def members (key : String) (position : Nat) (rows : List Row) (name : String) : List Row :=
  (fiber (bucketOf key) (rows.zipIdx position) name).map Prod.fst

section Buckets

variable {key : String} {position : Nat} {buckets out : Keyed Row} {row : Row} {rows : List Row}

theorem members_cons (name : String) :
    members key position (row :: rows) name =
      if bucketOf key (row, position) = name then row :: members key (position + 1) rows name
      else members key (position + 1) rows name := by
  by_cases h : bucketOf key (row, position) = name <;> simp [members, fiber, h]

/-- A row that goes to the one folded so far under its name, if there is one. -/
theorem merged_append_cons (existing : Option Row) (row : Row) (rest : List Row) :
    merged (existing.toList ++ row :: rest) =
      existing.elim (.ok row) (foldRow · row) >>= fun first => merged (first :: rest) := by
  cases existing with
  | none => rfl
  | some existing => exact List.foldlM_cons

theorem foldFrom_cons (hnamed : HasName key row) :
    foldFrom key position buckets (row :: rows) =
      (buckets.get? (bucketOf key (row, position))).elim (.ok row) (foldRow · row) >>= fun first =>
        foldFrom key (position + 1) (buckets.put (bucketOf key (row, position)) first) rows := by
  rw [foldFrom, bucket_eq_ok.2 ⟨hnamed, rfl⟩, Outcome.ok_bind]
  cases buckets.get? (bucketOf key (row, position)) <;> rfl

/-- Rows are only folded under names. -/
theorem hasName_of_foldFrom (h : foldFrom key position buckets rows = .ok out) :
    ∀ row ∈ rows, HasName key row := by
  induction rows generalizing position buckets with
  | nil => exact List.forall_mem_nil _
  | cons row rows ih =>
    obtain ⟨name, hname, -⟩ := Outcome.bind_eq_ok.1 (foldFrom.eq_2 .. ▸ h)
    have hnamed := (bucket_eq_ok.1 hname).1
    rw [foldFrom_cons hnamed] at h
    obtain ⟨_, -, hrest⟩ := Outcome.bind_eq_ok.1 h
    exact List.forall_mem_cons.2 ⟨hnamed, ih hrest⟩

/-- The buckets come in the order of their first rows. -/
theorem keys_foldFrom (h : foldFrom key position buckets rows = .ok out) :
    out.keys = firsts (buckets.keys ++ (rows.zipIdx position).map (bucketOf key)) := by
  induction rows generalizing position buckets with
  | nil =>
    rw [← Except.ok.inj h, List.zipIdx_nil, List.map_nil, List.append_nil]
    exact (firsts_of_nodup buckets.nodup).symm
  | cons row rows ih =>
    rw [foldFrom_cons (hasName_of_foldFrom h row List.mem_cons_self)] at h
    obtain ⟨first, -, h⟩ := Outcome.bind_eq_ok.1 h
    rw [ih h, Keyed.keys_put, List.zipIdx_cons, List.map_cons]
    split
    · next hmem => exact (firsts_append_cons_of_mem hmem _).symm
    · rw [List.append_assoc]
      rfl

/-- A bucket holds the rows of its name, folded. -/
theorem merged_of_get?_foldFrom (h : foldFrom key position buckets rows = .ok out) {name : String}
    {row : Row} (hrow : out.get? name = some row) :
    merged ((buckets.get? name).toList ++ members key position rows name) = .ok row := by
  induction rows generalizing position buckets with
  | nil =>
    rw [Except.ok.inj h, hrow]
    rfl
  | cons next rows ih =>
    rw [foldFrom_cons (hasName_of_foldFrom h next List.mem_cons_self)] at h
    obtain ⟨first, hfirst, h⟩ := Outcome.bind_eq_ok.1 h
    have hrest := ih h
    rw [members_cons]
    rw [Keyed.get?_put] at hrest
    split
    · next hname =>
      rw [if_pos hname] at hrest
      rw [merged_append_cons, ← hname, hfirst]
      exact hname ▸ hrest
    · next hname =>
      rw [if_neg hname] at hrest
      exact hrest

/-- Folding succeeds if it does under each name and all rows have one. -/
theorem exists_foldFrom (hnamed : ∀ row ∈ rows, HasName key row)
    (h : ∀ name ∈ (rows.zipIdx position).map (bucketOf key),
      ∃ row, merged ((buckets.get? name).toList ++ members key position rows name) = .ok row) :
    ∃ out, foldFrom key position buckets rows = .ok out := by
  induction rows generalizing position buckets with
  | nil => exact ⟨buckets, rfl⟩
  | cons next rows ih =>
    obtain ⟨hnext, hnamed⟩ := List.forall_mem_cons.1 hnamed
    rw [List.zipIdx_cons, List.map_cons, List.forall_mem_cons] at h
    obtain ⟨⟨row, hrow⟩, h⟩ := h
    rw [members_cons, if_pos rfl, merged_append_cons] at hrow
    obtain ⟨first, hfirst, hrow⟩ := Outcome.bind_eq_ok.1 hrow
    rw [foldFrom_cons hnext, hfirst, Outcome.ok_bind]
    refine ih hnamed fun name hname => ?_
    obtain ⟨other, hother⟩ := h name hname
    rw [Keyed.get?_put]
    split
    · next hsame => exact ⟨row, hsame ▸ hrow⟩
    · next hne =>
      rw [members_cons, if_neg hne] at hother
      exact ⟨other, hother⟩

end Buckets

/-- Merging succeeds if folding does under each name and all rows have one. -/
theorem exists_mergeRows {key : String} {rows : List Row} (hnamed : ∀ row ∈ rows, HasName key row)
    (h : ∀ a ∈ rows.zipIdx, ∃ row, merged (members key 0 rows (bucketOf key a)) = .ok row) :
    ∃ out, mergeRows key rows = .ok out := by
  obtain ⟨t, ht⟩ : ∃ t, foldFrom key 0 .empty rows = .ok t :=
    exists_foldFrom hnamed (List.forall_mem_map.2 h)
  rw [mergeRows, ht]
  exact ⟨_, rfl⟩

/-- **Merging makes one row for each bucket**, of the rows that go under its name. -/
theorem mergeRows_eq_ok {key : String} {rows out : List Row} :
    mergeRows key rows = .ok out ↔
      (∀ row ∈ rows, HasName key row) ∧
        (firsts (rows.zipIdx.map (bucketOf key))).mapM
          (fun name => merged (members key 0 rows name)) = .ok out := by
  have hforward : ∀ {out}, mergeRows key rows = .ok out →
      (∀ row ∈ rows, HasName key row) ∧
        (firsts (rows.zipIdx.map (bucketOf key))).mapM
          (fun name => merged (members key 0 rows name)) = .ok out := by
    intro out h
    obtain ⟨t, ht, hout⟩ := Outcome.bind_eq_ok.1 h
    have hkeys : t.keys = firsts (rows.zipIdx.map (bucketOf key)) := keys_foldFrom ht
    refine ⟨hasName_of_foldFrom ht, ?_⟩
    rw [← Outcome.pure_eq_ok.1 hout, Outcome.mapM_eq_ok, ← hkeys]
    exact t.forall₂_keys_values.imp fun name row hrow => merged_of_get?_foldFrom ht hrow
  refine ⟨hforward, fun ⟨hnamed, h⟩ => ?_⟩
  obtain ⟨other, hother⟩ : ∃ out, mergeRows key rows = .ok out :=
    exists_mergeRows hnamed fun a ha =>
      Outcome.exists_of_mem_mapM h (mem_firsts.2 (List.mem_map_of_mem ha))
  rw [hother, ← (hforward hother).2, h]

/-! ## Cells of merged rows -/

/-- A cell with that of another row folded into it, where either may be missing. -/
def foldGet : Option Value → Option Value → Outcome (Option Value)
  | none, value => .ok value
  | some current, none => .ok (some current)
  | some current, some value => (foldCell current value).map some

theorem foldGet_none (current : Option Value) : foldGet current none = .ok current := by
  cases current <;> rfl

/-- **A row is folded into another cell by cell.** -/
theorem foldGet_foldRow {existing row out : Row} (h : foldRow existing row = .ok out)
    (field : String) :
    foldGet (existing.get? field) (row.get? field) = .ok (out.get? field) := by
  have hnodup := row.nodup
  rw [foldRow] at h
  change foldGet _ (Keyed.find? field row.entries) = _
  generalize row.entries = entries at h hnodup
  induction entries generalizing existing with
  | nil =>
    rw [← Outcome.pure_eq_ok.1 h]
    exact foldGet_none _
  | cons entry entries ih =>
    obtain ⟨name, cell⟩ := entry
    rw [List.foldlM_cons] at h
    obtain ⟨next, hnext, h⟩ := Outcome.bind_eq_ok.1 h
    obtain ⟨habsent, hnodup⟩ := List.nodup_cons.1 hnodup
    have hrest := ih h hnodup
    by_cases hname : name = field
    · subst hname
      -- The field does not come again, so its cell stays.
      rw [Keyed.find?_eq_none habsent, foldGet_none] at hrest
      rw [← Except.ok.inj hrest, Keyed.find?, if_pos rfl]
      split at hnext
      · next hmissing =>
        rw [← Outcome.pure_eq_ok.1 hnext, hmissing, Keyed.get?_put, if_pos rfl]
        rfl
      · next current hcurrent =>
        obtain ⟨value, hvalue, hnext⟩ := Outcome.bind_eq_ok.1 hnext
        rw [← Outcome.pure_eq_ok.1 hnext, hcurrent, Keyed.get?_put, if_pos rfl, foldGet, hvalue]
        rfl
    · have hsame : next.get? field = existing.get? field := by
        split at hnext
        · rw [← Outcome.pure_eq_ok.1 hnext, Keyed.get?_put, if_neg hname]
        · obtain ⟨value, -, hnext⟩ := Outcome.bind_eq_ok.1 hnext
          rw [← Outcome.pure_eq_ok.1 hnext, Keyed.get?_put, if_neg hname]
      rw [Keyed.find?, if_neg hname, ← hsame, hrest]

/-- Cells folded into one, where any may be missing. -/
def foldCells (cells : List (Option Value)) : Outcome (Option Value) := cells.foldlM foldGet none

/-- Merged rows have folded cells. -/
theorem foldCells_merged {rows : List Row} {out : Row} (h : merged rows = .ok out)
    (field : String) : foldCells (rows.map (·.get? field)) = .ok (out.get? field) := by
  cases rows with
  | nil =>
    rw [← Except.ok.inj h]
    rfl
  | cons first rest =>
    rw [merged] at h
    change (rest.map (·.get? field)).foldlM foldGet (first.get? field) = _
    induction rest generalizing first with
    | nil => rw [Outcome.pure_eq_ok.1 h]; rfl
    | cons row rest ih =>
      rw [List.foldlM_cons] at h
      obtain ⟨next, hnext, h⟩ := Outcome.bind_eq_ok.1 h
      rw [List.map_cons, List.foldlM_cons, foldGet_foldRow hnext, Outcome.ok_bind]
      exact ih next h

/-! ## Cells of one kind -/

/-- Whether cells of a kind are folded into a cell of the kind, which tells what an operation makes
of what they tell. -/
structure Folds {β : Type} (kind : Value → Prop) (read : Value → Option β) (op : β → β → β) :
    Prop where
  null : kind .null
  read_null : read .null = none
  foldCell : ∀ {current value}, kind current → kind value →
    ∃ folded, Merge.foldCell current value = .ok folded ∧ kind folded ∧
      read folded = Option.merge op (read current) (read value)

namespace Folds

variable {β : Type} {kind : Value → Prop} {read : Value → Option β} {op : β → β → β}

theorem foldGet (hfolds : Folds kind read op) {current value : Option Value}
    (hcurrent : kind (current.getD .null)) (hvalue : kind (value.getD .null)) :
    ∃ folded, Merge.foldGet current value = .ok folded ∧ kind (folded.getD .null) ∧
      read (folded.getD .null) =
        Option.merge op (read (current.getD .null)) (read (value.getD .null)) := by
  cases current with
  | none =>
    refine ⟨value, rfl, hvalue, ?_⟩
    rw [Option.getD_none, hfolds.read_null, Option.merge_none_left]
  | some current =>
    cases value with
    | none =>
      refine ⟨some current, rfl, hcurrent, ?_⟩
      rw [Option.getD_none, hfolds.read_null, Option.merge_none_right]
    | some value =>
      rw [Option.getD_some] at hcurrent hvalue
      obtain ⟨folded, hfolded, hkind, hread⟩ := hfolds.foldCell hcurrent hvalue
      refine ⟨some folded, ?_, hkind, hread⟩
      rw [Merge.foldGet, hfolded]
      rfl

/-- Cells of one kind can be folded. -/
theorem foldCells (hfolds : Folds kind read op) {cells : List (Option Value)}
    (hcells : ∀ cell ∈ cells, kind (cell.getD .null)) :
    ∃ folded, Merge.foldCells cells = .ok folded ∧ kind (folded.getD .null) ∧
      read (folded.getD .null) =
        (cells.map fun cell => read (cell.getD .null)).foldl (Option.merge op) none := by
  rw [← hfolds.read_null]
  -- What was folded so far is of the kind, as is the cell that nothing was folded into.
  have hstart : kind ((none : Option Value).getD .null) := hfolds.null
  change ∃ folded, cells.foldlM Merge.foldGet none = _ ∧ _ ∧
    _ = (cells.map _).foldl _ (read ((none : Option Value).getD .null))
  generalize (none : Option Value) = start at hstart ⊢
  induction cells generalizing start with
  | nil => exact ⟨start, rfl, hstart, rfl⟩
  | cons cell cells ih =>
    obtain ⟨hcell, hcells⟩ := List.forall_mem_cons.1 hcells
    obtain ⟨next, hnext, hkind, hread⟩ := hfolds.foldGet hstart hcell
    rw [List.foldlM_cons, hnext, Outcome.ok_bind, List.map_cons, List.foldl_cons, ← hread]
    exact ih hcells next hkind

/-- A merged cell tells what the cells of its rows tell. -/
theorem merged (hfolds : Folds kind read op) {field : String} {rows : List Row} {out : Row}
    (hrows : ∀ row ∈ rows, kind (row.cell field)) (h : Merge.merged rows = .ok out) :
    kind (out.cell field) ∧
      read (out.cell field) =
        (rows.map fun row => read (row.cell field)).foldl (Option.merge op) none := by
  have hcells : ∀ cell ∈ rows.map (·.get? field), kind (cell.getD .null) :=
    List.forall_mem_map.2 fun row hrow => hrows row hrow
  obtain ⟨folded, hfolded, hkind, hread⟩ := hfolds.foldCells hcells
  obtain rfl := Except.ok.inj ((foldCells_merged h field).symm.trans hfolded)
  rw [List.map_map] at hread
  exact ⟨hkind, hread⟩

end Folds

/-! ## Amounts of merged rows -/

/-- A cell that holds an integer or nothing. -/
inductive IsAmount : Value → Prop
  | null : IsAmount .null
  | empty : IsAmount (.text "")
  | int (n : Int) : IsAmount (.int n)

/-- The integer that a cell holds. -/
def amount? : Value → Option Int
  | .number (.int n) => some n
  | _ => none

theorem amount?_eq_some_iff {value : Value} {n : Int} :
    amount? value = some n ↔ value = .int n := by
  cases value with
  | number m => cases m <;> simp [amount?, Value.int]
  | _ => simp [amount?, Value.int]

/-- The integers that rows hold in a field. -/
def amounts (field : String) (rows : List Row) : List Int :=
  rows.filterMap fun row => amount? (row.cell field)

/-- The sum of integers, if there are any. -/
def total? : List Int → Option Int
  | [] => none
  | n :: rest => some (n + rest.sum)

theorem total?_eq_some_iff {ns : List Int} {n : Int} :
    total? ns = some n ↔ ns ≠ [] ∧ n = ns.sum := by
  cases ns <;> simp [total?, eq_comm]

/-- Folding adds up amounts. -/
theorem folds_amounts : Folds IsAmount amount? (· + ·) where
  null := .null
  read_null := rfl
  foldCell hcurrent hvalue := by
    cases hcurrent <;> cases hvalue <;> exact ⟨_, rfl, by constructor, rfl⟩

theorem foldl_merge_amounts (field : String) (rows : List Row) (start : Option Int) :
    (rows.map fun row => amount? (row.cell field)).foldl (Option.merge (· + ·)) start =
      total? (start.toList ++ amounts field rows) := by
  induction rows generalizing start with
  | nil => cases start <;> simp [total?, amounts]
  | cons row rows ih =>
    rw [List.map_cons, List.foldl_cons, ih]
    cases start <;> cases hamount : amount? (row.cell field) <;>
      simp [amounts, total?, hamount, Int.add_assoc]

/-- An amount of merged rows is the sum of theirs. -/
theorem amount?_merged {field : String} {rows : List Row} {out : Row}
    (hrows : ∀ row ∈ rows, IsAmount (row.cell field)) (h : merged rows = .ok out) :
    IsAmount (out.cell field) ∧ amount? (out.cell field) = total? (amounts field rows) := by
  obtain ⟨hamount, hread⟩ := folds_amounts.merged hrows h
  exact ⟨hamount, hread.trans (foldl_merge_amounts field rows none)⟩

/-! ## Keys of merged rows -/

theorem key?_eq_some_iff {key k : String} {row : Row} :
    key? key row = some k ↔ row.get? key = some (.text k) ∧ k ≠ "" := by
  rw [key?, Keyed.cell]
  cases row.get? key with
  | none => simp
  | some value =>
    cases value with
    | text s =>
      by_cases hs : s = ""
      · simp [hs]
      · simp only [Option.getD_some, if_neg hs, Option.some.injEq, Value.text.injEq]
        exact ⟨fun h => ⟨h, h ▸ hs⟩, And.left⟩
    | _ => simp

/-- Folding keeps a cell that holds a text. -/
theorem get?_foldRow {key k : String} {existing row out : Row} (hk : k ≠ "")
    (hexisting : existing.get? key = some (.text k)) (h : foldRow existing row = .ok out) :
    out.get? key = some (.text k) := by
  have hfold := foldGet_foldRow h key
  rw [hexisting] at hfold
  cases hrow : row.get? key with
  | none =>
    rw [hrow] at hfold
    exact (Except.ok.inj hfold).symm
  | some value =>
    rw [hrow, foldGet, foldCell, if_neg hk] at hfold
    exact (Except.ok.inj hfold).symm

/-- Rows folded into one with a key have that key. -/
theorem key?_merged {key k : String} {first out : Row} {rest : List Row}
    (hfirst : key? key first = some k) (h : merged (first :: rest) = .ok out) :
    key? key out = some k := by
  rw [merged] at h
  induction rest generalizing first with
  | nil => rw [← Outcome.pure_eq_ok.1 h, hfirst]
  | cons row rest ih =>
    rw [List.foldlM_cons] at h
    obtain ⟨next, hnext, h⟩ := Outcome.bind_eq_ok.1 h
    obtain ⟨hget, hk⟩ := key?_eq_some_iff.1 hfirst
    exact ih (key?_eq_some_iff.2 ⟨get?_foldRow hk hget hnext, hk⟩) h

/-! ## Names -/

section Names

variable {key : String} {rows out : List Row} {a b : Row × Nat}

theorem bucketOf_of_key? {k : String} (h : key? key a.1 = some k) : bucketOf key a = k := by
  rw [bucketOf, h, Option.getD_some]

/-- The position can be read off a name that is made for a row. -/
theorem last_cut_bucketOf (h : key? key a.1 = none) :
    (Text.cut (· = '-') (bucketOf key a).toList).getLast? = some (Nat.toDigits 10 a.2) := by
  have hdigits : ∀ c ∈ Nat.toDigits 10 a.2, decide (c = '-') = false := fun c hc =>
    decide_eq_false fun e => Text.not_mem_toDigits (by decide) a.2 (e ▸ hc)
  have hname : (bucketOf key a).toList =
      (fullDatasetName a.1).toList ++ '-' :: Nat.toDigits 10 a.2 := by
    rw [bucketOf, h, Option.getD_none, String.toList_append, String.toList_append,
      Nat.toString_eq_repr, Nat.toList_repr, List.append_assoc]
    rfl
  rw [hname, Text.cut_append_separator (by decide), Text.cut_of_forall_not hdigits,
    List.getLast?_concat]

/-- Names that are made for two rows differ. -/
theorem eq_of_bucketOf (ha : a ∈ rows.zipIdx) (hb : b ∈ rows.zipIdx)
    (hakey : key? key a.1 = none) (hbkey : key? key b.1 = none)
    (hname : bucketOf key a = bucketOf key b) : a = b := by
  -- The name of a dataset may hold dashes, so the names are compared from behind.
  have hposition : a.2 = b.2 := by
    have hlast := last_cut_bucketOf hakey
    rw [hname, last_cut_bucketOf hbkey] at hlast
    exact (Text.toDigits_inj.1 (Option.some.inj hlast)).symm
  obtain ⟨row, i⟩ := a
  obtain ⟨other, j⟩ := b
  obtain rfl : i = j := hposition
  rw [List.mk_mem_zipIdx_iff_getElem?] at ha hb
  rw [Option.some.inj (ha.symm.trans hb)]

end Names

/-! ## Rows without a key -/

/-- The rows without a key, with their positions. -/
def keyless (key : String) (rows : List Row) : List (Row × Nat) :=
  rows.zipIdx.filter (key? key ·.1 = none)

/-- The names that are made for rows without a key are not keys of other rows. -/
def KeysApart (key : String) (rows : List Row) : Prop :=
  ∀ a ∈ keyless key rows, bucketOf key a ∉ rows.filterMap (key? key)

/-- Rows that came of merging others: one for each key, of the rows with the key, and the rows
without a key as they were. -/
structure Separated (key : String) (rows out : List Row) : Prop where
  keys : out.filterMap (key? key) = firsts (rows.filterMap (key? key))
  keyless : out.filter (key? key · = none) = rows.filter (key? key · = none)
  folded : ∀ row ∈ out, ∀ k, key? key row = some k →
    merged (rows.filter (key? key · = some k)) = .ok row

section Apart

variable {key : String} {rows out : List Row} {a : Row × Nat}

theorem nodup_zipIdx : rows.zipIdx.Nodup :=
  .of_map Prod.snd (List.nodup_zipIdx_map_snd rows)

theorem mem_keys {k : String} (ha : a ∈ rows.zipIdx) (hkey : key? key a.1 = some k) :
    k ∈ rows.filterMap (key? key) :=
  List.mem_filterMap.2 ⟨a.1, List.fst_mem_of_mem_zipIdx ha, hkey⟩

theorem mem_keyless : a ∈ keyless key rows ↔ a ∈ rows.zipIdx ∧ key? key a.1 = none := by
  simp [keyless]

theorem map_fst_keyless : (keyless key rows).map Prod.fst = rows.filter (key? key · = none) := by
  conv_rhs => rw [← List.zipIdx_map_fst 0 rows, List.filter_map]
  rfl

theorem nodup_names_keyless : ((keyless key rows).map (bucketOf key)).Nodup := by
  refine (nodup_zipIdx.filter _).map_on fun a ha b hb => ?_
  obtain ⟨ha, hakey⟩ := mem_keyless.1 ha
  obtain ⟨hb, hbkey⟩ := mem_keyless.1 hb
  exact eq_of_bucketOf ha hb hakey hbkey

/-- A row without a key is alone in its bucket. -/
theorem members_of_keyless (hapart : KeysApart key rows) (ha : a ∈ rows.zipIdx)
    (hkey : key? key a.1 = none) : members key 0 rows (bucketOf key a) = [a.1] := by
  have hsame : ∀ b ∈ rows.zipIdx,
      decide (bucketOf key b = bucketOf key a) = decide (b = a) := by
    intro b hb
    refine decide_eq_decide.2 ⟨fun hname => ?_, congrArg _⟩
    cases hb' : key? key b.1 with
    | none => exact eq_of_bucketOf hb ha hb' hkey hname
    | some k =>
      rw [bucketOf_of_key? hb'] at hname
      exact absurd (hname ▸ mem_keys hb hb') (hapart a (mem_keyless.2 ⟨ha, hkey⟩))
  rw [members, fiber, List.filter_congr hsame, List.filter_eq,
    List.count_eq_one_of_mem nodup_zipIdx ha]
  rfl

/-- The bucket of a key has the rows with the key. -/
theorem members_of_key (hapart : KeysApart key rows) {k : String}
    (hk : k ∈ rows.filterMap (key? key)) :
    members key 0 rows k = rows.filter (key? key · = some k) := by
  have hsame : ∀ b ∈ rows.zipIdx,
      decide (bucketOf key b = k) = decide (key? key b.1 = some k) := by
    intro b hb
    cases hb' : key? key b.1 with
    | none =>
      have hne : bucketOf key b ≠ k := fun e => hapart b (mem_keyless.2 ⟨hb, hb'⟩) (e ▸ hk)
      simp [hne]
    | some other => simp [bucketOf_of_key? hb']
  rw [members, fiber, List.filter_congr hsame]
  conv_rhs => rw [← List.zipIdx_map_fst 0 rows, List.filter_map]
  rfl

/-- The row that a bucket is folded into has the key of each of its rows, and is the one row of
the bucket if there is no key. -/
theorem key?_of_members (hapart : KeysApart key rows) (ha : a ∈ rows.zipIdx) {row : Row}
    (h : merged (members key 0 rows (bucketOf key a)) = .ok row) :
    key? key row = key? key a.1 ∧ (key? key a.1 = none → row = a.1) := by
  cases hkey : key? key a.1 with
  | none =>
    rw [members_of_keyless hapart ha hkey] at h
    obtain rfl : a.1 = row := Outcome.pure_eq_ok.1 h
    exact ⟨hkey, fun _ => rfl⟩
  | some k =>
    have hself : a.1 ∈ rows.filter (key? key · = some k) :=
      List.mem_filter.2 ⟨List.fst_mem_of_mem_zipIdx ha, decide_eq_true hkey⟩
    obtain ⟨first, rest, hrows⟩ := List.exists_cons_of_ne_nil (List.ne_nil_of_mem hself)
    have hfirst : first ∈ rows.filter (key? key · = some k) := hrows ▸ List.mem_cons_self
    rw [bucketOf_of_key? hkey, members_of_key hapart (mem_keys ha hkey), hrows] at h
    exact ⟨key?_merged (of_decide_eq_true (List.mem_filter.1 hfirst).2) h, nofun⟩

section Values

variable {value : String → Row} (hapart : KeysApart key rows)
  (hvalue : ∀ a ∈ rows.zipIdx,
    merged (members key 0 rows (bucketOf key a)) = .ok (value (bucketOf key a)))

include hapart hvalue

theorem key?_value (ha : a ∈ rows.zipIdx) : key? key (value (bucketOf key a)) = key? key a.1 :=
  (key?_of_members hapart ha (hvalue a ha)).1

/-- The rows of the buckets have the keys of the rows that went there, each once. -/
theorem filterMap_key?_values :
    ((firsts (rows.zipIdx.map (bucketOf key))).map value).filterMap (key? key) =
      firsts (rows.filterMap (key? key)) := by
  have hname : ∀ name ∈ rows.zipIdx.map (bucketOf key), ∀ k,
      key? key (value name) = some k → k = name := by
    intro name hname k hk
    obtain ⟨a, ha, rfl⟩ := List.mem_map.1 hname
    rw [key?_value hapart hvalue ha] at hk
    exact (bucketOf_of_key? hk).symm
  rw [List.filterMap_map]
  refine (filterMap_firsts hname).trans (congrArg firsts ?_)
  conv_rhs => rw [← List.zipIdx_map_fst 0 rows]
  rw [List.filterMap_map, List.filterMap_map]
  exact List.filterMap_congr fun a ha => key?_value hapart hvalue ha

/-- The rows of the buckets that have no key are the rows without one. -/
theorem filter_keyless_values :
    ((firsts (rows.zipIdx.map (bucketOf key))).map value).filter (key? key · = none) =
      rows.filter (key? key · = none) := by
  have hkept : ∀ a ∈ rows.zipIdx, decide (key? key (value (bucketOf key a)) = none) =
      decide (key? key a.1 = none) := fun a ha => by rw [key?_value hapart hvalue ha]
  calc
    ((firsts (rows.zipIdx.map (bucketOf key))).map value).filter (key? key · = none)
      = (firsts ((keyless key rows).map (bucketOf key))).map value := by
        rw [List.filter_map, filter_firsts, List.filter_map]
        exact congrArg (fun kept => (firsts (kept.map (bucketOf key))).map value)
          (List.filter_congr hkept)
    _ = (keyless key rows).map Prod.fst := by
        rw [firsts_of_nodup nodup_names_keyless, List.map_map]
        refine List.map_congr_left fun a ha => ?_
        obtain ⟨ha, hakey⟩ := mem_keyless.1 ha
        exact (key?_of_members hapart ha (hvalue a ha)).2 hakey
    _ = rows.filter (key? key · = none) := map_fst_keyless

end Values

theorem separated_of_apart (hapart : KeysApart key rows) (h : mergeRows key rows = .ok out) :
    Separated key rows out := by
  obtain ⟨value, rfl, hnames⟩ := Outcome.exists_map_of_mapM (mergeRows_eq_ok.1 h).2
  have hvalue : ∀ a ∈ rows.zipIdx,
      merged (members key 0 rows (bucketOf key a)) = .ok (value (bucketOf key a)) :=
    fun a ha => hnames _ (mem_firsts.2 (List.mem_map_of_mem ha))
  refine ⟨filterMap_key?_values hapart hvalue, filter_keyless_values hapart hvalue, ?_⟩
  intro row hrow k hk
  obtain ⟨name, hname, rfl⟩ := List.mem_map.1 hrow
  obtain ⟨a, ha, rfl⟩ := List.mem_map.1 (mem_firsts.1 hname)
  rw [key?_value hapart hvalue ha] at hk
  rw [← members_of_key hapart (mem_keys ha hk), ← bucketOf_of_key? hk, hvalue a ha]

theorem length_eq_add (key : String) (rows : List Row) :
    rows.length =
      (rows.filterMap (key? key)).length + (rows.filter (key? key · = none)).length := by
  rw [List.length_filterMap_eq_countP, ← List.countP_eq_length_filter,
    List.length_eq_countP_add_countP fun row => (key? key row).isSome]
  refine congrArg _ (List.countP_congr fun row _ => ?_)
  simp

/-- There are too few rows for a row without a key to stay separate under the key of another. -/
theorem apart_of_separated (h : mergeRows key rows = .ok out) (hout : Separated key rows out) :
    KeysApart key rows := by
  have hcover : firsts (rows.zipIdx.map (bucketOf key)) ⊆
      firsts (rows.filterMap (key? key)) ++ (keyless key rows).map (bucketOf key) := by
    intro name hname
    obtain ⟨a, ha, rfl⟩ := List.mem_map.1 (mem_firsts.1 hname)
    rw [List.mem_append, mem_firsts]
    cases hkey : key? key a.1 with
    | none => exact .inr (List.mem_map_of_mem (mem_keyless.2 ⟨ha, hkey⟩))
    | some k =>
      rw [bucketOf_of_key? hkey]
      exact .inl (mem_keys ha hkey)
  have hlength : (firsts (rows.filterMap (key? key)) ++
      (keyless key rows).map (bucketOf key)).length =
        (firsts (rows.zipIdx.map (bucketOf key))).length := by
    rw [← Outcome.length_of_mapM (mergeRows_eq_ok.1 h).2, List.length_append, ← hout.keys,
      List.length_map, ← List.length_map Prod.fst, map_fst_keyless, ← hout.keyless,
      ← length_eq_add]
  have hperm := (List.subperm_of_subset (nodup_firsts _) hcover).perm_of_length_le hlength.le
  have hdisjoint := List.nodup_append.1 (hperm.nodup (nodup_firsts _))
  intro a ha hmem
  exact hdisjoint.2.2 _ (mem_firsts.2 hmem) _ (List.mem_map_of_mem ha) rfl

/-- Merging rows whose keys are apart succeeds if it does for the rows of each key. -/
theorem exists_mergeRows_of_apart (hapart : KeysApart key rows)
    (hnamed : ∀ row ∈ rows, HasName key row)
    (h : ∀ k ∈ rows.filterMap (key? key), ∃ row,
      merged (rows.filter (key? key · = some k)) = .ok row) :
    ∃ out, mergeRows key rows = .ok out := by
  refine exists_mergeRows hnamed fun a ha => ?_
  cases hkey : key? key a.1 with
  | none => exact ⟨a.1, by rw [members_of_keyless hapart ha hkey]; rfl⟩
  | some k =>
    rw [bucketOf_of_key? hkey, members_of_key hapart (mem_keys ha hkey)]
    exact h k (mem_keys ha hkey)

end Apart

/-- **Merging keeps the rows without a key separate exactly if no name made for one of them is the
key of another row.** Then it succeeds if it does for the rows of each key and the names of the
others can be made. -/
theorem mergeRows_separated (key : String) (rows : List Row) :
    (∀ out, mergeRows key rows = .ok out → (Separated key rows out ↔ KeysApart key rows)) ∧
    (KeysApart key rows →
      ((∃ out, mergeRows key rows = .ok out) ↔
        (∀ row ∈ rows, HasName key row) ∧
          ∀ k ∈ rows.filterMap (key? key), ∃ row,
            merged (rows.filter (key? key · = some k)) = .ok row)) := by
  refine ⟨fun out h => ⟨apart_of_separated h, fun hapart => separated_of_apart hapart h⟩,
    fun hapart => ⟨?_, fun ⟨hnamed, hkeys⟩ => exists_mergeRows_of_apart hapart hnamed hkeys⟩⟩
  rintro ⟨out, h⟩
  refine ⟨(mergeRows_eq_ok.1 h).1, fun k hk => ?_⟩
  have hout := separated_of_apart hapart h
  rw [← mem_firsts, ← hout.keys] at hk
  obtain ⟨row, hrow, hkey⟩ := List.mem_filterMap.1 hk
  exact ⟨row, hout.folded row hrow k hkey⟩

/-- A row of a dataset with an amount for a project. -/
def amountRow (dataset project : String) (amount : Int) : Row :=
  .ofList [("dataset_id", .text dataset), ("project_id", .text project),
    ("amount", .number (.int amount))]

/-- Sales and costs of one project, and a note about none. -/
def noteRows : List Row :=
  [amountRow "sales" "garden" 1, amountRow "notes" "" 2, amountRow "costs" "garden" 3]

theorem mergeRows_separated_notes :
    ∃ out, mergeRows defaultKey noteRows = .ok out ∧
      out.filterMap (key? defaultKey) = ["garden"] ∧
      out.filter (key? defaultKey · = none) = [amountRow "notes" "" 2] := by
  have hapart : KeysApart defaultKey noteRows := by
    unfold KeysApart
    decide +kernel
  have hmerged : ∀ k ∈ noteRows.filterMap (key? defaultKey), ∃ row,
      merged (noteRows.filter (key? defaultKey · = some k)) = .ok row := by
    have hkeys : ∀ k ∈ noteRows.filterMap (key? defaultKey), k = "garden" := by decide +kernel
    intro k hk
    rw [hkeys k hk]
    exact ⟨amountRow "sales" "garden" 4, by decide +kernel⟩
  obtain ⟨hseparated, hexists⟩ := mergeRows_separated defaultKey noteRows
  obtain ⟨out, hout⟩ := (hexists hapart).2 ⟨by decide +kernel, hmerged⟩
  have hkept := (hseparated out hout).2 hapart
  refine ⟨out, hout, hkept.keys.trans ?_, hkept.keyless.trans ?_⟩ <;> decide +kernel

/-- A name made for a row may be the key of another row. -/
theorem exists_keyless_folded :
    ¬ ∀ (key : String) (rows out : List Row), mergeRows key rows = .ok out →
      ∀ row ∈ rows, key? key row = none → row ∈ out := by
  intro h
  have hfolded : mergeRows defaultKey [amountRow "sales" "notes-1" 1, amountRow "notes" "" 2] =
      .ok [amountRow "sales" "notes-1" 3] := by decide +kernel
  exact absurd (h _ _ _ hfolded (amountRow "notes" "" 2) (by simp) (by decide +kernel))
    (by decide +kernel)

end Merge

end Reporting
