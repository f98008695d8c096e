import Reporting.Proofs.Groups
import Reporting.Proofs.NearestDoubles
import Reporting.Proofs.Ranks

/-!
# Ranks and sorts

Ranks compare doubles and sorts compare integers exactly. A sort from the greatest integer down
lists the ranks from one up exactly if the double of no integer is that of a greater one further on
(`Calculation.apply_rank_sorted`), as it may be beyond `2 ^ 53`
(`Calculation.exists_ranks_unsorted`).
-/

namespace Reporting

open Double (rounded)

/-! ## Sorting what is ranked -/

section Ranked

variable {α : Type} {amount rank : α → Int} {items : List α}

/-- Whether two items, the first before the second, are ranked by the doubles of their amounts. -/
def RankedBefore (amount rank : α → Int) (a b : α) : Prop :=
  (rank a < rank b ↔ rounded (amount b) ≤ rounded (amount a)) ∧
    (rank b < rank a ↔ rounded (amount a) < rounded (amount b))

/-- Whether the ranks of two items go by their amounts, whichever comes first. -/
def RankedByAmount (amount rank : α → Int) (a b : α) : Prop :=
  (amount b < amount a → rank a < rank b) ∧ (amount a < amount b → rank b < rank a)

/-- **A sort by amounts lists ranks in order** exactly if no amount has the double of a greater one
behind it. -/
theorem pairwise_rank_mergeSort_iff {le : α → α → Bool}
    (trans : ∀ a b c, le a b = true → le b c = true → le a c = true)
    (total : ∀ a b, (le a b || le b a) = true)
    (hle : ∀ a ∈ items, ∀ b ∈ items, le a b = true ↔ amount b ≤ amount a)
    (hranked : items.Pairwise (RankedBefore amount rank)) :
    (items.mergeSort le).Pairwise (fun a b => rank a < rank b) ↔
      items.Pairwise fun a b => amount a < amount b → rounded (amount a) < rounded (amount b) := by
  have hperm := List.mergeSort_perm items le
  have hsorted : (items.mergeSort le).Pairwise fun a b =>
      amount b ≤ amount a ∧ (amount a ≤ amount b → RankedBefore amount rank a b) := by
    refine (pairwise_mergeSort_of_pairwise trans total hranked).imp_of_mem fun ha hb h => ?_
    have ha := hperm.mem_iff.1 ha
    have hb := hperm.mem_iff.1 hb
    exact ⟨(hle _ ha _ hb).1 h.1, fun hge => h.2 ((hle _ hb _ ha).2 hge)⟩
  have hbehind : (items.mergeSort le).Pairwise (fun a b => rank a < rank b) ↔
      (items.mergeSort le).Pairwise (RankedByAmount amount rank) := by
    constructor <;> intro h <;> refine (hsorted.and h).imp fun {a b} hab => ?_
    · obtain ⟨⟨hge, -⟩, hrank⟩ := hab
      exact ⟨fun _ => hrank, fun hlt => absurd hge (not_le.2 hlt)⟩
    · obtain ⟨⟨hge, htie⟩, hagrees⟩ := hab
      obtain hlt | heq := lt_or_eq_of_le hge
      · exact hagrees.1 hlt
      · exact (htie heq.ge).1.2 (by rw [heq])
  -- By its symmetry the relation holds before the sort if it does behind it.
  have hsymm : ∀ {a b}, RankedByAmount amount rank a b → RankedByAmount amount rank b a := And.symm
  rw [hbehind, hperm.pairwise_iff hsymm]
  constructor <;> intro h <;> refine (hranked.and h).imp fun {a b} hab => ?_
  · obtain ⟨⟨-, hbehind⟩, hagrees⟩ := hab
    exact fun hlt => hbehind.1 (hagrees.2 hlt)
  · obtain ⟨⟨hbefore, hbehind⟩, htold⟩ := hab
    exact ⟨fun hlt => hbefore.2 (Double.rounded_mono hlt.le), fun hlt => hbehind.2 (htold hlt)⟩

end Ranked

/-! ## Sorting ranked rows -/

namespace SortRule

variable {field : String} {a b : Row} {m n : Int}

theorem rowOrder_descending (ha : a.cell field = .int m) (hb : b.cell field = .int n) :
    rowOrder [⟨field, .descending⟩] a b = compare n m := by
  have hnumbers : Number.order (.int m) (.int n) = compare m n := Double.compare_mul_one m n
  have hrule : order ⟨field, .descending⟩ a b = (Number.order (.int m) (.int n)).swap := by
    rw [order, seen, seen, ha, hb]
    rfl
  rw [rowOrder, compareLex, hrule, hnumbers, ← Std.OrientedOrd.eq_swap]
  exact Ordering.then_eq

/-- Rows of integers are sorted. -/
theorem sortRows_descending {rows : List Row}
    (h : ∀ row ∈ rows, ∃ n : Int, row.cell field = .int n) :
    sortRows [⟨field, .descending⟩] rows = .ok (rows.mergeSort fun a b =>
      (rowOrder [⟨field, .descending⟩] a b).isLE) := by
  have horders : ∀ rule ∈ [(⟨field, .descending⟩ : SortRule)], rule.Orders rows := by
    intro rule hrule
    obtain rfl := List.mem_singleton.1 hrule
    refine ⟨fun row hrow => ?_, .inl fun row hrow => ?_⟩
    all_goals obtain ⟨n, hn⟩ := h row hrow
    · rw [hn]
      exact trivial
    · rw [seen, hn]
      exact nofun
  refine sortRows_of_compareRows fun a ha b hb => ?_
  obtain ⟨m, hm⟩ := h a ha
  obtain ⟨n, hn⟩ := h b hb
  rw [compareRows_eq horders ha hb, if_neg]
  rintro (hclash | ⟨-, hclash⟩)
  · rw [seen, seen, hm, hn] at hclash
    exact hclash
  · exact hclash

end SortRule

namespace Calculation

variable {c : Calculation} {field : String} {rows : List Row}

/-- The integer that is written in a field. -/
def amountIn (field : String) (row : Row) : Int := (row.cell field).written

theorem amountIn_put_self (row : Row) (n : Int) : amountIn field (row.put field (.int n)) = n := by
  rw [amountIn, Keyed.cell_put, if_pos rfl, Value.written_int]

theorem amountIn_put_of_ne {other : String} (h : other ≠ field) (row : Row) (value : Value) :
    amountIn field (row.put other value) = amountIn field row := by
  rw [amountIn, Keyed.cell_put, if_neg h, amountIn]

/-- Rows of integers are ranked by the doubles of these. -/
theorem exists_ranked (hrule : c.rule = .rank field) (hother : c.output ≠ field)
    (hint : ∀ row ∈ rows, ∃ n : Int, row.cell field = .int n ∧
      (row.cell field).toNumber = .ok (.int n)) :
    ∃ ranks : List Nat, ranks.Perm (List.range' 1 rows.length) ∧
      c.apply rows = .ok (assign c.output rows (ranks.map fun (rank : Nat) => Value.int rank)) ∧
      (assign c.output rows (ranks.map fun (rank : Nat) => Value.int rank)).Pairwise
        (RankedBefore (amountIn field) (amountIn c.output)) := by
  obtain ⟨value, hvalue, happly⟩ := exists_apply_rank hrule fun row hrow =>
    (hint row hrow).elim fun n hn => ⟨.int n, hn.2⟩
  have hrounded : ∀ row ∈ rows, (value row).toInt? = some (rounded (amountIn field row)) := by
    intro row hrow
    obtain ⟨n, hcell, hnumber⟩ := hint row hrow
    obtain ⟨-, number, hread, hdouble⟩ := hvalue row hrow
    obtain rfl := Except.ok.inj (hnumber.symm.trans hread)
    have hfits : (Number.int n).Fits := Number.yields_intToDouble_iff.1 ⟨_, hdouble, trivial⟩
    obtain ⟨x, hx, hwhole⟩ := Number.exists_intToDouble_rounded hfits
    rw [Except.ok.inj (hdouble.symm.trans hx), hwhole, amountIn, hcell, Value.written_int]
  have hfinite : ∀ x ∈ rows.map value, x.isFinite = true :=
    List.forall_mem_map.2 fun row hrow => (hvalue row hrow).1
  have hperm := Series.perm_ranks hfinite
  have hpairs := Series.pairwise_ranks hfinite
  rw [List.length_map] at hperm
  generalize Series.ranks (rows.map value) = ranks at hperm hpairs happly
  refine ⟨ranks, hperm, happly, ?_⟩
  rw [List.zip_map_left, List.pairwise_map] at hpairs
  rw [assign, List.zipWith_map_right, ← List.map_uncurry_zip_eq_zipWith, List.pairwise_map]
  refine hpairs.imp_of_mem fun {p q} hp hq h => ?_
  have hcompare := Double.compare?_of_toInt? (hrounded q.1 (List.of_mem_zip hq).1)
    (hrounded p.1 (List.of_mem_zip hp).1)
  simp only [Prod.map_fst, Prod.map_snd, id_eq, hcompare, Option.some.injEq, compare_gt_iff_gt,
    ne_eq, not_lt] at h
  simpa only [RankedBefore, Function.uncurry, amountIn_put_self, amountIn_put_of_ne hother,
    Int.ofNat_lt] using h

/-- Rows list the numbers from one up in order exactly if their order is that of these numbers. -/
theorem map_cell_eq_range'_iff {output : String} {ranked sorted : List Row} {ranks : List Nat}
    {count : Nat} (hsorted : sorted.Perm ranked)
    (houtput : ranked.map (·.cell output) = ranks.map fun (rank : Nat) => Value.int rank)
    (hperm : ranks.Perm (List.range' 1 count)) :
    sorted.map (·.cell output) =
        (List.range' 1 count).map (fun (rank : Nat) => Value.int rank) ↔
      sorted.Pairwise fun a b => amountIn output a < amountIn output b := by
  have hamounts : ∀ rows : List Row,
      rows.map (amountIn output) = (rows.map (·.cell output)).map Value.written :=
    fun rows => by rw [List.map_map]; rfl
  have hwritten : ∀ numbers : List Nat,
      (numbers.map fun (rank : Nat) => Value.int rank).map Value.written = numbers.map Int.ofNat :=
    fun numbers => by rw [List.map_map]; rfl
  have hrange : ((List.range' 1 count).map Int.ofNat).Pairwise (· < ·) :=
    (List.pairwise_lt_range' 1).map _ fun _ _ => Int.ofNat_lt.2
  have hamountsPerm :
      (sorted.map (amountIn output)).Perm ((List.range' 1 count).map Int.ofNat) := by
    refine (hsorted.map _).trans ?_
    rw [hamounts, houtput, hwritten]
    exact hperm.map _
  rw [← List.pairwise_map (f := amountIn output) (R := (· < ·))]
  constructor
  · intro h
    rwa [hamounts, h, hwritten]
  · intro h
    have heq := List.Perm.eq_of_pairwise (fun a b _ _ hab hba => absurd hab hba.not_gt) h hrange
      hamountsPerm
    have hcell : ∀ row ∈ sorted, row.cell output = .int (amountIn output row) := by
      intro row hrow
      have hmem : row.cell output ∈ ranked.map (·.cell output) :=
        List.mem_map_of_mem (hsorted.mem_iff.1 hrow)
      rw [houtput] at hmem
      obtain ⟨rank, -, hrank⟩ := List.mem_map.1 hmem
      rw [amountIn, ← hrank, Value.written_int]
    have hcells := congrArg (List.map Value.int) heq
    rw [List.map_map, List.map_map] at hcells
    exact (List.map_congr_left hcell).trans hcells

/-- **A sort by the ranked field lists the ranks in order** exactly if no integer has the double of
a greater one further on. -/
theorem apply_rank_sorted (hrule : c.rule = .rank field) (hother : c.output ≠ field)
    (hint : ∀ row ∈ rows, ∃ n : Int, row.cell field = .int n ∧
      (row.cell field).toNumber = .ok (.int n)) :
    ∃ ranked sorted, c.apply rows = .ok ranked ∧
      SortRule.sortRows [⟨field, .descending⟩] ranked = .ok sorted ∧
      (sorted.map (·.cell c.output) =
          (List.range' 1 rows.length).map (fun (rank : Nat) => Value.int rank) ↔
        rows.Pairwise fun a b => amountIn field a < amountIn field b →
          rounded (amountIn field a) < rounded (amountIn field b)) := by
  obtain ⟨ranks, hperm, happly, hranked⟩ := exists_ranked hrule hother hint
  have hlength : (ranks.map fun (rank : Nat) => Value.int rank).length = rows.length := by
    rw [List.length_map, hperm.length_eq, List.length_range']
  have hfield := map_cell_assign hother hlength
  have houtput := map_cell_output c.output hlength
  generalize assign c.output rows (ranks.map fun (rank : Nat) => Value.int rank) = ranked at *
  have hcells : ∀ row ∈ ranked, ∃ n : Int, row.cell field = .int n := by
    intro row hrow
    have hcell : row.cell field ∈ rows.map (·.cell field) :=
      hfield ▸ List.mem_map_of_mem (f := (·.cell field)) hrow
    obtain ⟨old, hold, heq⟩ := List.mem_map.1 hcell
    obtain ⟨n, hn, -⟩ := hint old hold
    exact ⟨n, heq.symm.trans hn⟩
  refine ⟨ranked, _, happly, SortRule.sortRows_descending hcells, ?_⟩
  have hle : ∀ a ∈ ranked, ∀ b ∈ ranked,
      (SortRule.rowOrder [⟨field, .descending⟩] a b).isLE = true ↔
        amountIn field b ≤ amountIn field a := by
    intro a ha b hb
    obtain ⟨m, hm⟩ := hcells a ha
    obtain ⟨n, hn⟩ := hcells b hb
    rw [SortRule.rowOrder_descending hm hn, amountIn, amountIn, hm, hn, Value.written_int,
      Value.written_int, Ordering.isLE_iff_ne_gt]
    exact Int.compare_ne_gt
  rw [map_cell_eq_range'_iff (List.mergeSort_perm _ _) houtput hperm,
    pairwise_rank_mergeSort_iff (fun _ _ _ => Std.TransCmp.isLE_trans) isLE_or_isLE hle hranked]
  -- The condition is one on the integers, which the ranked rows share with the given ones.
  have hamounts : ranked.map (amountIn field) = rows.map (amountIn field) := by
    have hwritten := congrArg (List.map Value.written) hfield
    rwa [List.map_map, List.map_map] at hwritten
  rw [← List.pairwise_map (f := amountIn field) (R := fun m n => m < n → rounded m < rounded n),
    hamounts, List.pairwise_map]

/-- Rows of sales. -/
def salesOf (amounts : List Int) : List Row :=
  amounts.map fun amount => .ofList [("sales", .int amount)]

/-- Sales that doubles tell apart, though some are beyond `2 ^ 53`. -/
def largeSales : List Row := salesOf [2 ^ 53, -7, 2 ^ 53 + 2, -7]

theorem apply_rank_sorted_large :
    (∀ row ∈ largeSales, ∃ n : Int, row.cell "sales" = .int n ∧
      (row.cell "sales").toNumber = .ok (.int n)) ∧
    ∃ ranked sorted, salesRank.apply largeSales = .ok ranked ∧
      SortRule.sortRows [⟨"sales", .descending⟩] ranked = .ok sorted ∧
      sorted.map (·.cell "rank") = [.int 1, .int 2, .int 3, .int 4] := by
  have hint : ∀ row ∈ largeSales, ∃ n : Int, row.cell "sales" = .int n ∧
      (row.cell "sales").toNumber = .ok (.int n) := by
    have hcells : ∀ row ∈ largeSales, row.cell "sales" = .int (amountIn "sales" row) ∧
        (row.cell "sales").toNumber = .ok (.int (amountIn "sales" row)) := by decide +kernel
    exact fun row hrow => ⟨_, hcells row hrow⟩
  obtain ⟨ranked, sorted, happly, hsorted, hiff⟩ :=
    apply_rank_sorted (c := salesRank) rfl (by decide) hint
  exact ⟨hint, ranked, sorted, happly, hsorted, hiff.2 (by decide +kernel)⟩

/-- Two sales that one double stands for, the greater one behind. -/
def closeSales : List Row := salesOf [2 ^ 53, 2 ^ 53 + 1]

/-- A sale with its rank. -/
def rankedSale (amount rank : Int) : Row := .ofList [("sales", .int amount), ("rank", .int rank)]

/-- Ranks follow the doubles of integers, which a sort tells apart further. -/
theorem exists_ranks_unsorted :
    ¬ ∀ (c : Calculation) (field : String) (rows : List Row), c.rule = .rank field →
      c.output ≠ field →
      (∀ row ∈ rows, ∃ n : Int, row.cell field = .int n ∧
        (row.cell field).toNumber = .ok (.int n)) →
      ∃ ranked sorted, c.apply rows = .ok ranked ∧
        SortRule.sortRows [⟨field, .descending⟩] ranked = .ok sorted ∧
        sorted.map (·.cell c.output) =
          (List.range' 1 rows.length).map fun (rank : Nat) => Value.int rank := by
  intro h
  have hcells : ∀ row ∈ closeSales, row.cell "sales" = .int (amountIn "sales" row) ∧
      (row.cell "sales").toNumber = .ok (.int (amountIn "sales" row)) := by decide +kernel
  have hranked : salesRank.apply closeSales = .ok [rankedSale (2 ^ 53) 1,
      rankedSale (2 ^ 53 + 1) 2] := by decide +kernel
  have hsort : SortRule.sortRows [⟨"sales", .descending⟩] [rankedSale (2 ^ 53) 1,
      rankedSale (2 ^ 53 + 1) 2] = .ok [rankedSale (2 ^ 53 + 1) 2, rankedSale (2 ^ 53) 1] := by cbv
  obtain ⟨ranked, sorted, happly, hsorted, hlisted⟩ := h salesRank "sales" closeSales rfl
    (by decide) fun row hrow => ⟨_, hcells row hrow⟩
  obtain rfl := Except.ok.inj (hranked.symm.trans happly)
  obtain rfl := Except.ok.inj (hsort.symm.trans hsorted)
  revert hlisted
  decide +kernel

end Calculation

end Reporting
