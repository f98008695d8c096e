import Reporting.Proofs.Run

/-!
# Paging

The pages of a list tile it (`flatMap_pages`, `paginate_eq_nil`), and a run reads its paging only
for the page of its table. `PagesOf` says what the results of one view with every paging have in
common; runs that fail do so with one failure for every paging.
-/

namespace Reporting

/-! ## Pages of a list -/

section Pages

variable {α : Type}

/-- The number of pages that so many items fill. -/
def pageCount (total size : Nat) : Nat := (total + size - 1) / size

theorem le_pageCount_mul {total size : Nat} (hsize : 1 ≤ size) :
    total ≤ pageCount total size * size := by
  have hlt := Nat.lt_div_mul_add (a := total + size - 1) (b := size) (by omega)
  rw [pageCount]
  omega

theorem paginate_succ (items : List α) (page size : Nat) :
    paginate items (page + 1 : Nat) size = (items.drop (page * size)).take size := by
  have hstart : (((page + 1 : Nat) : Int) - 1) * size = ((page * size : Nat) : Int) := by
    rw [Int.natCast_add, Int.natCast_one, Int.add_sub_cancel, Int.natCast_mul]
  have hstop : ¬ ((page * size : Nat) : Int) + size < 0 := by omega
  simp only [paginate, hstart, Int.toNat_natCast, sliceEnd, if_neg hstop]
  rw [← Int.natCast_add, Int.toNat_natCast, List.drop_take, Nat.add_sub_cancel_left]

theorem flatMap_paginate (items : List α) (size count : Nat) :
    ((List.range count).flatMap fun page => paginate items (page + 1 : Nat) size) =
      items.take (count * size) := by
  induction count with
  | zero => simp
  | succ count ih =>
    rw [List.range_succ, List.flatMap_append, ih, List.flatMap_singleton, paginate_succ,
      Nat.succ_mul, List.take_add]

/-- **The pages of a list tile it.** -/
theorem flatMap_pages (items : List α) {size : Nat} (hsize : 1 ≤ size) :
    ((List.range (pageCount items.length size)).flatMap fun page =>
      paginate items (page + 1 : Nat) size) = items := by
  rw [flatMap_paginate, List.take_of_length_le (le_pageCount_mul hsize)]

/-- The pages after the last are empty. -/
theorem paginate_eq_nil (items : List α) {page size : Nat} (hsize : 1 ≤ size)
    (hpage : pageCount items.length size < page) : paginate items page size = [] := by
  cases page with
  | zero => omega
  | succ before =>
    have hbefore : pageCount items.length size * size ≤ before * size :=
      Nat.mul_le_mul_right size (Nat.le_of_lt_succ hpage)
    have hlength := Nat.le_trans (le_pageCount_mul hsize) hbefore
    rw [paginate_succ, List.drop_of_length_le hlength, List.take_nil]

end Pages

/-! ## Pages of a run -/

/-- A run input with another paging. -/
def RunInput.withPaging (input : RunInput) (page pageSize : Option Int) : RunInput :=
  { input with page, pageSize }

/-- A result apart from the page that its table shows. -/
def RunResult.withoutPage (result : RunResult) : RunResult :=
  { result with table := { result.table with rows := [], page := 0, pageSize := 0 } }

namespace RunInput

variable (input : RunInput) (view : View) (default : Int)

/-- The size of pages is positive, and does not depend on the page asked for. -/
theorem exists_pageLength (size : Option Int) : ∃ length : Nat, 1 ≤ length ∧
    ∀ page, (input.withPaging page size).pageLength view default = length := by
  have hpos : 1 ≤ (input.withPaging none size).pageLength view default := by
    rw [pageLength]
    omega
  obtain ⟨length, hlength⟩ := Int.eq_ofNat_of_zero_le (Int.le_trans (by omega) hpos)
  exact ⟨length, by omega, fun _ => hlength⟩

theorem pageLength_withPaging (page : Option Int) {size : Nat} (hsize : 1 ≤ size) :
    (input.withPaging page (some size)).pageLength view default = size := by
  have hne : (size : Int) ≠ 0 := by omega
  simp only [pageLength, withPaging, nonzero, Option.filter_some, decide_eq_true hne, if_true,
    Option.some_or, Option.getD_some]
  omega

theorem pageNumber_withPaging (size : Option Int) {page : Nat} (hpage : 1 ≤ page) :
    (input.withPaging (some page) size).pageNumber = page := by
  have hne : (page : Int) ≠ 0 := by omega
  simp only [pageNumber, withPaging, nonzero, Option.filter_some, decide_eq_true hne, if_true,
    Option.getD_some]
  omega

end RunInput

/-- What results with every paging have in common: they are alike but for the page that their table
shows of the same rows, and for each size the pages tile these rows. -/
structure PagesOf (view : View) (calculations : List Calculation) (ordered : List Row)
    (result : Option Int → Option Int → RunResult) : Prop where
  alike : ∀ page size page' size',
    (result page size).withoutPage = (result page' size').withoutPage
  built : ∀ page size, Table.build view calculations (result page size).table.page
    (result page size).table.pageSize (result page size).rawRows =
      .ok ((result page size).table, ordered)
  totalRows : ∀ page size, (result page size).table.totalRows = ordered.length
  numbered : ∀ (page : Nat) size, 1 ≤ page → (result (some page) size).table.page = page
  tiled : ∀ size, ∃ length : Nat, 1 ≤ length ∧
    (∀ page, (result page size).table.pageSize = length) ∧
    (∀ asked : Nat, 1 ≤ asked → size = some (asked : Int) → length = asked) ∧
    ((List.range (pageCount ordered.length length)).flatMap fun page =>
      (result (some (page + 1 : Nat)) size).table.rows) = ordered ∧
    ∀ page : Nat, pageCount ordered.length length < page →
      (result (some page) size).table.rows = []

/-- **A run is transparent to its paging**: it fails with one failure for every page and size, or
its results are the pages of the sorted rows of its table. -/
theorem runView_pages (defaultPageSize : Int) (clock : Outcome Moment) (rows : List Row)
    (view : View) (calculations : List Calculation) (input : RunInput) :
    (∃ failure, ∀ page size, runView defaultPageSize clock rows view calculations
      (input.withPaging page size) = .error failure) ∨
    ∃ ordered result, PagesOf view calculations ordered result ∧
      ∀ page size, runView defaultPageSize clock rows view calculations
        (input.withPaging page size) = .ok (result page size) := by
  -- The paging does not reach the run without a page, so one case split serves every paging.
  have hwhole : ∀ page size, runWhole clock rows view calculations (input.withPaging page size) =
      runWhole clock rows view calculations input := fun _ _ => rfl
  cases hrun : runWhole clock rows view calculations input with
  | error failure =>
    refine .inl ⟨failure, fun page size => ?_⟩
    rw [runView_eq_runWhole, hwhole, hrun]
    rfl
  | ok made =>
    obtain ⟨whole, ordered⟩ := made
    have hsteps := runWhole_inv hrun
    let number page size := (input.withPaging page size).pageNumber
    let length page size := (input.withPaging page size).pageLength view defaultPageSize
    have htotal : whole.table.totalRows = ordered.length := by
      rw [hsteps.table]
      rfl
    have hbuilt : ∀ page size, Table.build view calculations page size whole.rawRows =
        .ok (whole.table.turned ordered page size, ordered) := by
      intro page size
      rw [Table.build_eq, hsteps.sorted, Outcome.ok_bind, hsteps.totals, Outcome.ok_bind,
        ← hsteps.table]
      rfl
    refine .inr ⟨ordered, fun page size => whole.turned ordered (number page size)
      (length page size), ⟨fun _ _ _ _ => rfl, fun _ _ => hbuilt _ _, fun _ _ => htotal,
        fun _ size => input.pageNumber_withPaging size, fun size => ?_⟩, fun page size => ?_⟩
    · obtain ⟨pageLength, hpos, hlength⟩ := input.exists_pageLength view defaultPageSize size
      have hshown : ∀ page : Nat, 1 ≤ page →
          (whole.turned ordered (number (some page) size) (length (some page) size)).table.rows =
            paginate ordered page pageLength := by
        intro page hpage
        simp only [number, length, input.pageNumber_withPaging size hpage, hlength]
        rfl
      refine ⟨pageLength, hpos, hlength, fun asked hasked hsize => ?_, ?_, fun page hpage => ?_⟩
      · have hasked' := input.pageLength_withPaging view defaultPageSize none hasked
        rw [← hsize, hlength] at hasked'
        exact Int.ofNat.inj hasked'
      · rw [List.flatMap_congr fun page _ => hshown (page + 1) (by omega)]
        exact flatMap_pages ordered hpos
      · rw [hshown page (by omega)]
        exact paginate_eq_nil ordered hpos hpage
    · rw [runView_eq_runWhole, hwhole, hrun]
      rfl

end Reporting
