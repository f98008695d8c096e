import Reporting.Proofs.FilteredRows
import Reporting.Proofs.GroupRows

/-!
# Filtered groups

A search on a dimension sees only the text of the dimension, so it has one answer for all members of
a group, and the same one for the row of the group (`Filter.IsSearch.accepts_congr`). What it keeps
before the grouping are thus whole groups (`groupRows_filter`), and it may as well be made on the
rows of the groups, as long as all groups have a row (`groupRows_keep`).
-/

namespace Reporting

open Outcome

namespace Outcome

variable {α β : Type} {f : α → Outcome β} {xs : List α} {ys : List β}

/-- A traversal of the items that are kept for their results. -/
theorem mapM_filter {p : α → Bool} {q : β → Bool} (hf : xs.mapM f = .ok ys)
    (h : ∀ x ∈ xs, ∀ y, f x = .ok y → q y = p x) : (xs.filter p).mapM f = .ok (ys.filter q) := by
  have hall := mapM_eq_ok.1 hf
  clear hf
  refine mapM_eq_ok.2 ?_
  induction hall with
  | nil => exact .nil
  | cons hy _ ih =>
    have hkept := h _ List.mem_cons_self _ hy
    have hrest := ih fun x hx => h x (List.mem_cons_of_mem _ hx)
    rw [List.filter_cons, List.filter_cons, hkept]
    split
    · exact .cons hy hrest
    · exact hrest

end Outcome

/-! ## Searches -/

namespace Filter

/-- Whether a filter searches for texts in a field. -/
def IsSearch (f : Filter) : Prop := f.operator = "in" ∨ f.operator = "contains"

variable {f : Filter} {row other : Row}

/-- A search puts one test to the texts of its field in lower case. -/
theorem IsSearch.exists_test (hf : f.IsSearch) : ∃ test : Outcome (List Char → Bool),
    ∀ row, f.accepts row = do return (← test) (← (row.cell f.field).lowerText) := by
  obtain hop | hop := hf
  · refine ⟨do
      return (((← f.value.toItems).map fun item => Text.lowerChars item.toList).contains ·),
      fun row => ?_⟩
    simp only [accepts, hop, Operator.ofName?, Operator.holds, isOneOf, bind_assoc, pure_bind]
  · refine ⟨do return Text.occursIn (← f.value.lowerText), fun row => ?_⟩
    simp only [accepts, hop, Operator.ofName?, Operator.holds, containsText, bind_assoc, pure_bind]

/-- A search sees only the text of its field. -/
theorem IsSearch.accepts_congr (hf : f.IsSearch)
    (h : (row.cell f.field).toText = (other.cell f.field).toText) :
    f.accepts row = f.accepts other := by
  obtain ⟨test, htest⟩ := hf.exists_test
  rw [htest, htest, Value.lowerText, Value.lowerText, h]

/-- A search fails on every row or else on none whose field can be written. -/
theorem IsSearch.fails_or_decides (hf : f.IsSearch) :
    (∃ failure, ∀ row, f.accepts row = .error failure) ∨
      ∀ row : Row, (row.cell f.field).IsWritable → Decides [f] row := by
  obtain ⟨test, htest⟩ := hf.exists_test
  cases test with
  | error failure => exact .inl ⟨failure, htest⟩
  | ok sees =>
    refine .inr fun row hrow => decides_singleton.2
      ⟨sees (Text.lowerChars (row.cell f.field).plainText.toList), ?_⟩
    rw [htest, ok_bind, Value.lowerText, Value.toText_eq_ok.2 ⟨hrow, rfl⟩]
    rfl

theorem keep_cons_of_fails {failure : Failure} (h : ∀ row, f.accepts row = .error failure)
    (rest : List Row) : keep [f] (row :: rest) = .error failure := by
  rw [keep, acceptsAll, h]
  rfl

end Filter

/-! ## Groups of kept rows -/

section Groups

variable {view : View} {rows : List Row}

/-- **What is kept for its dimension texts is kept as whole groups**, with the rows that these have
among all groups. -/
theorem groupRows_filter {p : Row → Bool}
    (hkeyable : ∀ row ∈ rows, Grouping.IsKeyable view.dimensions row)
    (hparted : ∀ row ∈ rows, Grouping.IsParted view.dimensions row)
    (hp : ∀ row ∈ rows, ∀ other ∈ rows,
      Grouping.tuple view.dimensions row = Grouping.tuple view.dimensions other → p row = p other) :
    groupRows view (rows.filter p) =
      ((firsts (rows.map (Grouping.tuple view.dimensions))).filter fun texts =>
        p ((fiber (Grouping.tuple view.dimensions) rows texts).headD .empty)).mapM fun texts =>
          Grouping.groupRow view (fiber (Grouping.tuple view.dimensions) rows texts) := by
  let tuple := Grouping.tuple view.dimensions
  let q (texts : List String) : Bool := p ((fiber tuple rows texts).headD .empty)
  have hpq : ∀ row ∈ rows, p row = q (tuple row) := by
    intro row hrow
    have hmem : tuple row ∈ firsts (rows.map tuple) := mem_firsts.2 (List.mem_map_of_mem hrow)
    obtain ⟨hfirst, htexts⟩ := mem_fiber.1 (headD_fiber_mem hmem .empty)
    exact hp row hrow _ hfirst htexts.symm
  have hsub : ∀ row ∈ rows.filter p, row ∈ rows := fun row hrow => (List.mem_filter.1 hrow).1
  rw [groupRows_eq_mapM_tuples (fun row hrow => hkeyable row (hsub row hrow))
    (fun row hrow => hparted row (hsub row hrow)), firsts_map_filter hpq]
  refine mapM_congr fun texts htexts => ?_
  rw [fiber_filter (q := q) hpq (List.mem_filter.1 htexts).2]

/-- All rows can be grouped exactly if those that are kept for their dimension texts can and the
others can. -/
theorem exists_groupRows_iff {p : Row → Bool}
    (hkeyable : ∀ row ∈ rows, Grouping.IsKeyable view.dimensions row)
    (hparted : ∀ row ∈ rows, Grouping.IsParted view.dimensions row)
    (hp : ∀ row ∈ rows, ∀ other ∈ rows,
      Grouping.tuple view.dimensions row = Grouping.tuple view.dimensions other → p row = p other) :
    (∃ out, groupRows view rows = .ok out) ↔
      (∃ out, groupRows view (rows.filter p) = .ok out) ∧
        ∃ out, groupRows view (rows.filter fun row => !p row) = .ok out := by
  have hnot : ∀ row ∈ rows, ∀ other ∈ rows, Grouping.tuple view.dimensions row =
      Grouping.tuple view.dimensions other → (!p row) = !p other :=
    fun row hrow other hother htexts => congrArg _ (hp row hrow other hother htexts)
  rw [groupRows_eq_mapM_tuples hkeyable hparted, groupRows_filter hkeyable hparted hp,
    groupRows_filter hkeyable hparted hnot, exists_mapM_iff, exists_mapM_iff, exists_mapM_iff]
  simp only [List.mem_filter]
  constructor
  · intro h
    exact ⟨fun texts hmem => h texts hmem.1, fun texts hmem => h texts hmem.1⟩
  · rintro ⟨hkept, hdropped⟩ texts hmem
    cases hp : p ((fiber (Grouping.tuple view.dimensions) rows texts).headD .empty) with
    | true => exact hkept texts ⟨hmem, hp⟩
    | false => exact hdropped texts ⟨hmem, by rw [hp]; rfl⟩

variable {f : Filter} (hf : f.IsSearch) (hfield : f.field ∈ view.dimensions)

include hf hfield

/-- A search on a dimension has one answer for rows with the same dimension texts. -/
theorem accepts_of_tuple {row other : Row} (hrow : Grouping.IsKeyable view.dimensions row)
    (hother : Grouping.IsKeyable view.dimensions other)
    (h : Grouping.tuple view.dimensions row = Grouping.tuple view.dimensions other) :
    f.accepts row = f.accepts other := by
  refine hf.accepts_congr ?_
  rw [← Grouping.dimensionText_eq, ← Grouping.dimensionText_eq other,
    Grouping.dimensionText_eq_ok.2 ⟨hrow _ hfield, rfl⟩,
    Grouping.dimensionText_eq_ok.2 ⟨hother _ hfield, rfl⟩, List.map_inj_left.1 h _ hfield]

/-- A search on a dimension has one answer for a group row and its first member. -/
theorem accepts_groupRow (hlabel : f.field ∉ view.measures.map (·.label)) {members : List Row}
    {out : Row} (h : Grouping.groupRow view members = .ok out) :
    f.accepts out = f.accepts (members.headD .empty) := by
  refine hf.accepts_congr ?_
  obtain ⟨hscalar, hmade⟩ := Grouping.groupRow_eq_ok.1 h
  rw [Grouping.cell_addMeasures_of_not_mem hlabel hmade, Grouping.cell_plainCells _ hfield,
    (hscalar _ hfield).toText_normalized]

/-- A search on a dimension keeps a row or another one for the dimension texts alone. -/
theorem admits_of_tuple (hkeyable : ∀ row ∈ rows, Grouping.IsKeyable view.dimensions row) :
    ∀ row ∈ rows, ∀ other ∈ rows,
      Grouping.tuple view.dimensions row = Grouping.tuple view.dimensions other →
        decide (Filter.Admits [f] row) = decide (Filter.Admits [f] other) := by
  intro row hrow other hother htexts
  simp only [Filter.admits_singleton,
    accepts_of_tuple hf hfield (hkeyable row hrow) (hkeyable other hother) htexts]

variable (hlabel : f.field ∉ view.measures.map (·.label))
  (hparted : ∀ row ∈ rows, Grouping.IsParted view.dimensions row)

include hlabel hparted

/-- Grouping what a search on a dimension keeps is searching the rows of the groups, if all groups
have rows. -/
theorem keep_bind_groupRows {grouped : List Row} (h : groupRows view rows = .ok grouped) :
    (Filter.keep [f] rows >>= groupRows view) = Filter.keep [f] grouped := by
  have hkeyable := isKeyable_of_groupRows h
  have hrows := h
  rw [groupRows_eq_mapM_tuples hkeyable hparted] at hrows
  obtain ⟨failure, hfails⟩ | hdecides := hf.fails_or_decides
  · cases rows with
    | nil =>
      obtain rfl := Except.ok.inj h
      rfl
    | cons row rest =>
      cases mapM_eq_ok.1 hrows with
      | cons _ _ =>
        rw [Filter.keep_cons_of_fails hfails, Filter.keep_cons_of_fails hfails]
        rfl
  · have hdecided : ∀ row ∈ rows, Filter.Decides [f] row := fun row hrow =>
      hdecides row (hkeyable row hrow _ hfield)
    have hdecidedGroups : ∀ out ∈ grouped, Filter.Decides [f] out := by
      intro out hout
      obtain ⟨texts, htexts, hrow⟩ := exists_source_of_mapM hrows hout
      simpa only [Filter.decides_singleton, accepts_groupRow hf hfield hlabel hrow] using
        hdecided _ (mem_fiber.1 (headD_fiber_mem htexts .empty)).1
    rw [Filter.keep_of_decides hdecided, Filter.keep_of_decides hdecidedGroups, ok_bind,
      groupRows_filter hkeyable hparted (admits_of_tuple hf hfield hkeyable)]
    refine mapM_filter hrows fun texts htexts out hout => ?_
    simp only [Filter.admits_singleton, accepts_groupRow hf hfield hlabel hout]

/-- If the rows that a search keeps can be grouped, then all rows can exactly if the others can. -/
theorem groupRows_bind_keep {kept out : List Row} (hkept : Filter.keep [f] rows = .ok kept)
    (hout : groupRows view kept = .ok out) :
    (groupRows view rows >>= Filter.keep [f]) = .ok out ↔
      ∃ rest, groupRows view (rows.filter fun row => f.accepts row = .ok false) = .ok rest := by
  have hdecides := Filter.decides_of_keep_singleton hkept
  have hanswer : ∀ row ∈ rows, ∃ b, f.accepts row = .ok b := fun row hrow =>
    Filter.decides_singleton.1 (hdecides row hrow)
  have hdropped : (rows.filter fun row => f.accepts row = .ok false) =
      rows.filter fun row => !decide (Filter.Admits [f] row) := by
    refine List.filter_congr fun row hrow => ?_
    obtain ⟨b, hb⟩ := hanswer row hrow
    simp only [Filter.admits_singleton, hb]
    cases b <;> rfl
  obtain rfl := Filter.keep_inv hkept
  rw [hdropped]
  constructor
  · intro h
    obtain ⟨grouped, hgrouped, -⟩ := bind_eq_ok.1 h
    have hkeyable := isKeyable_of_groupRows hgrouped
    exact ((exists_groupRows_iff hkeyable hparted (admits_of_tuple hf hfield hkeyable)).1
      ⟨grouped, hgrouped⟩).2
  · rintro ⟨rest, hrest⟩
    have hkeyable : ∀ row ∈ rows, Grouping.IsKeyable view.dimensions row := by
      intro row hrow
      by_cases hadmits : Filter.Admits [f] row
      · exact isKeyable_of_groupRows hout row (List.mem_filter.2 ⟨hrow, decide_eq_true hadmits⟩)
      · exact isKeyable_of_groupRows hrest row (List.mem_filter.2 ⟨hrow, by simpa using hadmits⟩)
    obtain ⟨grouped, hgrouped⟩ :=
      (exists_groupRows_iff hkeyable hparted (admits_of_tuple hf hfield hkeyable)).2
        ⟨⟨out, hout⟩, rest, hrest⟩
    rw [hgrouped, ok_bind, ← keep_bind_groupRows hf hfield hlabel hparted hgrouped, hkept]
    exact hout

end Groups

/-- **A search on a dimension may be made before the grouping or after it**, as long as dimension
texts are free of separators and all rows can be grouped. The row of a group is then kept exactly if
its members are, and it is the row of all of them. Where the rows that are kept can be grouped, all
rows can, and the rows of groups that are kept are the same, exactly if the other rows can be
grouped as well. -/
theorem groupRows_keep {view : View} {rows : List Row} {f : Filter} (hf : f.IsSearch)
    (hfield : f.field ∈ view.dimensions) (hlabel : f.field ∉ view.measures.map (·.label))
    (hparted : ∀ row ∈ rows, Grouping.IsParted view.dimensions row) :
    (∀ grouped, groupRows view rows = .ok grouped →
      (Filter.keep [f] rows >>= groupRows view) = Filter.keep [f] grouped) ∧
    ∀ kept out, Filter.keep [f] rows = .ok kept → groupRows view kept = .ok out →
      ((groupRows view rows >>= Filter.keep [f]) = .ok out ↔
        ∃ rest, groupRows view (rows.filter fun row => f.accepts row = .ok false) = .ok rest) :=
  ⟨fun _ => keep_bind_groupRows hf hfield hlabel hparted,
    fun _ _ => groupRows_bind_keep hf hfield hlabel hparted⟩

/-- The sales of each region by year. -/
def yearlySales : View := { monthlySales with columnFields := ["year"] }

/-- A row of the sales of a region in 2024. -/
def yearRow (region : Value) (total least : Int) : Row :=
  .ofList [("region", region), ("year", .int 2024), ("total", .int total), ("number", .int 2),
    ("least", .int least)]

theorem groupRows_keep_unplaced :
    groupRows yearlySales looseSales = .ok [yearRow (.text "north") 10 3, yearRow .null 5 0] ∧
    (Filter.keep [⟨"region", "in", .list [.null]⟩] looseSales >>= groupRows yearlySales) =
      .ok [yearRow .null 5 0] ∧
    ∃ rest, groupRows yearlySales (looseSales.filter fun row =>
      (⟨"region", "in", .list [.null]⟩ : Filter).accepts row = .ok false) = .ok rest := by
  let unplaced : Filter := ⟨"region", "in", .list [.null]⟩
  have hgrouped : groupRows yearlySales looseSales =
      .ok [yearRow (.text "north") 10 3, yearRow .null 5 0] := by decide +kernel
  have hkept : Filter.keep [unplaced] looseSales = .ok [
      .ofList [("year", .int 2024), ("amount", .int 5)],
      .ofList [("region", .null), ("year", .int 2024), ("amount", .bool true)]] := by
    decide +kernel
  have hafterwards : Filter.keep [unplaced] [yearRow (.text "north") 10 3, yearRow .null 5 0] =
      .ok [yearRow .null 5 0] := by decide +kernel
  have hparted : ∀ row ∈ looseSales, Grouping.IsParted yearlySales.dimensions row := by
    decide +kernel
  have hfield : unplaced.field ∈ yearlySales.dimensions := by decide
  obtain ⟨hbefore, hafter⟩ := groupRows_keep (.inl rfl) hfield (by decide) hparted
  have hsearched := (hbefore _ hgrouped).trans hafterwards
  refine ⟨hgrouped, hsearched, ?_⟩
  rw [hkept, ok_bind] at hsearched
  refine (hafter _ _ hkept hsearched).1 ?_
  rw [hgrouped, ok_bind, hafterwards]

/-- Amounts of the north that come to one, and an amount of the south. -/
def balancedSales : List Row := [
  .ofList [("region", .text "north"), ("amount", .int (10 ^ 308))],
  .ofList [("region", .text "north"), ("amount", .int (10 ^ 308))],
  .ofList [("region", .text "north"), ("amount", .double (.ofNat 1))],
  .ofList [("region", .text "north"), ("amount", .int (-10 ^ 308))],
  .ofList [("region", .text "north"), ("amount", .int (-10 ^ 308))],
  .ofList [("region", .text "south"), ("amount", .int 5)]]

/-- The total of each region. -/
def regionalTotals : View :=
  { monthlySales with columnFields := [], measures := [⟨"amount", "total", "sum", none⟩] }

/-- Numbers in all cells do not give each group a row: the sum of integers on its way may be too
large for a double that is added. -/
theorem exists_search_stopped :
    ¬ ∀ (view : View) (rows : List Row) (f : Filter), f.IsSearch → f.field ∈ view.dimensions →
      f.field ∉ view.measures.map (·.label) →
      (∀ row ∈ rows, Grouping.IsParted view.dimensions row) →
      (∀ measure ∈ view.measures, ∀ row ∈ rows,
        ∃ n, (row.cell measure.field).toNumber = .ok n) →
      (Filter.keep [f] rows >>= groupRows view) = (groupRows view rows >>= Filter.keep [f]) := by
  intro h
  let south : Filter := ⟨"region", "in", .text "south"⟩
  have hnumbers : ∀ measure ∈ regionalTotals.measures, ∀ row ∈ balancedSales,
      ∃ n, (row.cell measure.field).toNumber = .ok n := by
    have hcells : ∀ measure ∈ regionalTotals.measures, ∀ row ∈ balancedSales,
        ((row.cell measure.field).toNumber).toBool = true := by decide +kernel
    intro measure hmeasure row hrow
    obtain ⟨n, hn, -⟩ := yields_of_toBool (hcells measure hmeasure row hrow)
    exact ⟨n, hn⟩
  have hclaimed := h regionalTotals balancedSales south (.inl rfl) (by decide) (by decide)
    (by decide +kernel) hnumbers
  have hsearched : (Filter.keep [south] balancedSales >>= groupRows regionalTotals) =
      .ok [.ofList [("region", .text "south"), ("total", .int 5)]] := by decide +kernel
  have hstopped : groupRows regionalTotals balancedSales = .error .overflow := by decide +kernel
  rw [hsearched, hstopped] at hclaimed
  cases hclaimed

end Reporting
