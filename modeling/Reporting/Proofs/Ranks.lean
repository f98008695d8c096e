import Reporting.Proofs.Calculations
import Reporting.Proofs.SortOrder

/-!
# Ranks

The rank of a value is its place in a linear order: the greater value first, and the earlier one of
equal values (`Series.ranks_eq`). So the ranks of a field are the numbers from one up, and a row
ranks before another if its double is greater, or equal and earlier (`Calculation.apply_rank`).
-/

namespace Reporting

/-! ## Places in a linear order -/

section Place

variable {κ : Type} [LinearOrder κ] {keys : List κ} {a b : κ}

/-- The place of a key among others: one more than the number of those before it. -/
def place (keys : List κ) (a : κ) : Nat := keys.countP (· < a) + 1

theorem place_mono (h : a ≤ b) : place keys a ≤ place keys b := by
  refine Nat.succ_le_succ (List.countP_mono_left fun k _ hk => ?_)
  simp only [decide_eq_true_eq] at hk ⊢
  exact hk.trans_le h

theorem place_lt_place (ha : a ∈ keys) (h : a < b) : place keys a < place keys b := by
  obtain ⟨before, after, rfl⟩ := List.append_of_mem ha
  have hbefore : place before a ≤ place before b := place_mono h.le
  have hafter : place after a ≤ place after b := place_mono h.le
  simp only [place, List.countP_append, List.countP_cons, decide_eq_true h, lt_irrefl, decide_false,
    if_true, Bool.false_eq_true, if_false] at hbefore hafter ⊢
  omega

theorem place_lt_place_iff (ha : a ∈ keys) : place keys a < place keys b ↔ a < b :=
  ⟨fun h => not_le.1 fun hle => absurd (place_mono hle) (not_le.2 h), place_lt_place ha⟩

/-- **The places of distinct keys** are the numbers from one up. -/
theorem perm_places (h : keys.Nodup) :
    (keys.map (place keys)).Perm (List.range' 1 keys.length) := by
  have hinjective : ∀ a ∈ keys, ∀ b ∈ keys, place keys a = place keys b → a = b := by
    intro a ha b hb heq
    obtain hlt | rfl | hlt := lt_trichotomy a b
    · exact absurd heq (place_lt_place ha hlt).ne
    · rfl
    · exact absurd heq (place_lt_place hb hlt).ne'
  have hrange : keys.map (place keys) ⊆ List.range' 1 keys.length := by
    intro p hp
    obtain ⟨a, ha, rfl⟩ := List.mem_map.1 hp
    have hless : keys.countP (· < a) < keys.length := by
      refine List.countP_lt_length_iff.2 ⟨a, ha, ?_⟩
      simp
    rw [List.mem_range'_1, place]
    omega
  refine (List.subperm_of_subset (h.map_on hinjective) hrange).perm_of_length_le ?_
  rw [List.length_map, List.length_range']

end Place

/-! ## Ranks of values -/

namespace Series

variable {xs : List Double}

theorem compare?_eq {x y : Double} (hx : x.isFinite = true) (hy : y.isFinite = true) :
    Double.compare? x y =
      some (compare (Number.units (.double x)) (Number.units (.double y))) := by
  cases x with
  | finite s a =>
    cases y with
    | finite t b => rfl
    | infinite | nan => cases hy
  | infinite | nan => cases hx

/-- Where a value at a position stands: the greater value first, and the earlier one of equal
values. -/
def rankKey (item : Double × Nat) : Int ×ₗ Nat :=
  toLex (-Number.units (.double item.1), item.2)

theorem rankKey_lt_iff {p q : Double × Nat} :
    rankKey p < rankKey q ↔ Number.units (.double q.1) < Number.units (.double p.1) ∨
      Number.units (.double p.1) = Number.units (.double q.1) ∧ p.2 < q.2 := by
  rw [rankKey, rankKey, Prod.Lex.toLex_lt_toLex, neg_lt_neg_iff, neg_inj]

theorem countP_earlier {x : Double} (hx : x.isFinite = true) {earlier : List Double}
    (h : ∀ y ∈ earlier, y.isFinite = true) {start position : Nat}
    (hposition : start + earlier.length ≤ position) :
    ((earlier.zipIdx start).map rankKey).countP (· < rankKey (x, position)) =
      countWhere (fun y => Double.compare? x y = some .lt) earlier +
        countWhere (fun y => Double.compare? x y = some .eq) earlier := by
  induction earlier generalizing start with
  | nil => rfl
  | cons y rest ih =>
    obtain ⟨hy, hrest⟩ := List.forall_mem_cons.1 h
    rw [List.length_cons] at hposition
    have hstart : start < position := by omega
    have hlater := ih hrest (by omega : start + 1 + rest.length ≤ position)
    simp only [List.zipIdx_cons, List.map_cons, List.countP_cons, hlater, rankKey_lt_iff,
      countWhere, List.filter_cons, compare?_eq hx hy, Option.some.injEq,
      compare_lt_iff_lt, compare_eq_iff_eq, hstart, and_true]
    obtain hlt | heq | hgt := lt_trichotomy (Number.units (.double x)) (Number.units (.double y))
    · simp [hlt, hlt.ne, hlt.ne']
      omega
    · simp [heq]
      omega
    · simp [hgt.ne, hgt.ne', hgt.not_gt]

theorem countP_later {x : Double} (hx : x.isFinite = true) {later : List Double}
    (h : ∀ y ∈ later, y.isFinite = true) {start position : Nat} (hposition : position ≤ start) :
    ((later.zipIdx start).map rankKey).countP (· < rankKey (x, position)) =
      countWhere (fun y => Double.compare? x y = some .lt) later := by
  induction later generalizing start with
  | nil => rfl
  | cons y rest ih =>
    obtain ⟨hy, hrest⟩ := List.forall_mem_cons.1 h
    have hlater := ih hrest (by omega : position ≤ start + 1)
    simp only [List.zipIdx_cons, List.map_cons, List.countP_cons, hlater, rankKey_lt_iff,
      countWhere, List.filter_cons, compare?_eq hx hy, Option.some.injEq,
      compare_lt_iff_lt, Nat.not_lt.2 hposition, and_false, or_false, decide_eq_true_eq]
    split <;> rfl

/-- **Ranks are places** in the order from the greatest value down. -/
theorem ranksFrom_eq {earlier : List Double} (h : ∀ x ∈ earlier ++ xs, x.isFinite = true) :
    ranksFrom earlier xs = ((xs.zipIdx earlier.length).map rankKey).map
      (place ((earlier ++ xs).zipIdx.map rankKey)) := by
  induction xs generalizing earlier with
  | nil => rfl
  | cons x rest ih =>
    have hmiddle : earlier ++ [x] ++ rest = earlier ++ x :: rest := by simp
    have hx : x.isFinite = true := h x (by simp)
    have hearlier : ∀ y ∈ earlier, y.isFinite = true := fun y hy => h y (by simp [hy])
    have hrest : ∀ y ∈ rest, y.isFinite = true := fun y hy => h y (by simp [hy])
    rw [ranksFrom, ih (by rwa [hmiddle]), hmiddle, List.length_append, List.length_singleton,
      List.zipIdx_cons, List.map_cons, List.map_cons]
    refine congrArg (· :: _) ?_
    rw [place, rankOf, List.zipIdx_append, List.zipIdx_cons, List.map_append, List.map_cons,
      List.countP_append, List.countP_cons, Nat.zero_add, countP_earlier hx hearlier (by omega),
      countP_later hx hrest (Nat.le_succ _)]
    simp only [countWhere, List.filter_append, List.length_append, lt_irrefl, decide_false,
      Bool.false_eq_true, if_false]
    omega

section Ranks

variable (h : ∀ x ∈ xs, x.isFinite = true)

include h

theorem ranks_eq : ranks xs = (xs.zipIdx.map rankKey).map (place (xs.zipIdx.map rankKey)) :=
  ranksFrom_eq h

/-- The ranks of values are the numbers from one up. -/
theorem perm_ranks : (ranks xs).Perm (List.range' 1 xs.length) := by
  have hpositions : ((xs.zipIdx.map rankKey).map fun key => (ofLex key).2).Nodup := by
    rw [List.map_map]
    exact (List.zipIdx_map_snd 0 xs).symm ▸ List.nodup_range'
  have hperm := perm_places hpositions.of_map
  rwa [← ranks_eq h, List.length_map, List.length_zipIdx] at hperm

/-- A value ranks before another if it is greater, or equal and earlier. -/
theorem ranks_lt_iff {i j : Nat} {x y : Double} {r s : Nat} (hx : xs[i]? = some x)
    (hy : xs[j]? = some y) (hr : (ranks xs)[i]? = some r) (hs : (ranks xs)[j]? = some s) :
    r < s ↔ x.compare? y = some .gt ∨ x.compare? y = some .eq ∧ i < j := by
  have hkey : ∀ {k z t}, xs[k]? = some z → (ranks xs)[k]? = some t →
      rankKey (z, k) ∈ xs.zipIdx.map rankKey ∧
        t = place (xs.zipIdx.map rankKey) (rankKey (z, k)) := by
    intro k z t hz ht
    have hitem : (xs.zipIdx.map rankKey)[k]? = some (rankKey (z, k)) := by
      rw [List.getElem?_map, List.getElem?_zipIdx, hz]
      simp
    rw [ranks_eq h, List.getElem?_map, hitem] at ht
    exact ⟨List.mem_of_getElem? hitem, (Option.some.inj ht).symm⟩
  obtain ⟨hmem, rfl⟩ := hkey hx hr
  obtain ⟨-, rfl⟩ := hkey hy hs
  rw [place_lt_place_iff hmem, rankKey_lt_iff,
    compare?_eq (h x (List.mem_of_getElem? hx)) (h y (List.mem_of_getElem? hy))]
  simp only [Option.some.injEq, compare_gt_iff_gt, compare_eq_iff_eq]

/-- A later value ranks first exactly if it is greater. -/
theorem pairwise_ranks : (xs.zip (ranks xs)).Pairwise fun a b =>
    (a.2 < b.2 ↔ b.1.compare? a.1 ≠ some .gt) ∧ (b.2 < a.2 ↔ b.1.compare? a.1 = some .gt) := by
  rw [List.pairwise_iff_getElem]
  intro i j hi hj hij
  rw [List.length_zip, length_ranks, Nat.min_self] at hi hj
  have hri : i < (ranks xs).length := by rwa [length_ranks]
  have hrj : j < (ranks xs).length := by rwa [length_ranks]
  simp only [List.getElem_zip]
  rw [ranks_lt_iff h (List.getElem?_eq_getElem hi) (List.getElem?_eq_getElem hj)
    (List.getElem?_eq_getElem hri) (List.getElem?_eq_getElem hrj),
    ranks_lt_iff h (List.getElem?_eq_getElem hj) (List.getElem?_eq_getElem hi)
    (List.getElem?_eq_getElem hrj) (List.getElem?_eq_getElem hri),
    compare?_eq (h _ (List.getElem_mem hi)) (h _ (List.getElem_mem hj)),
    compare?_eq (h _ (List.getElem_mem hj)) (h _ (List.getElem_mem hi))]
  simp only [Option.some.injEq, compare_gt_iff_gt, compare_eq_iff_eq, hij, hij.not_gt, and_true,
    and_false, or_false, ne_eq, not_lt]
  omega

end Ranks

end Series

/-! ## Ranks of rows -/

theorem Number.isFinite_of_intToDouble {n : Int} {x : Double} (h : intToDouble n = .ok x) :
    x.isFinite = true := by
  rw [intToDouble, Double.ofInt?] at h
  by_cases hlt : Double.nearestUnits (n.natAbs * Double.one) 1 < Double.bound
  · rw [Double.ofRatio_of_lt hlt] at h
    exact Except.ok.inj h ▸ rfl
  · rw [Double.ofRatio_of_not_lt hlt] at h
    cases h

/-- The number of a cell has a finite double. -/
theorem Value.yields_toDouble {value : Value} {n : Number} (h : value.toNumber = .ok n) :
    n.toDouble.Yields fun x => x.isFinite = true := by
  have hfits : (Number.int 0).Fits := Number.fits_of_size_lt (Nat.two_pow_pos 200)
  have hzero : (Number.int 0).toDouble.Yields fun x => x.isFinite = true := by
    obtain ⟨x, hx, -⟩ := Number.yields_toDouble hfits
    exact ⟨x, hx, Number.isFinite_of_intToDouble hx⟩
  have hfinite : ∀ x : Double, (if x.isFinite = true then Number.double x else .int 0) = n →
      n.toDouble.Yields fun x => x.isFinite = true := by
    rintro x rfl
    split
    · next hx => exact ⟨x, rfl, hx⟩
    · exact hzero
  cases value with
  | number number =>
    cases number with
    | int k =>
      obtain ⟨x, hx, hn⟩ := Outcome.bind_eq_ok.1 h
      obtain rfl := Outcome.pure_eq_ok.1 hn
      exact ⟨x, hx, Number.isFinite_of_intToDouble hx⟩
    | double x => exact hfinite x (Except.ok.inj h)
  | text s =>
    have hn : textToNumber s = n := Except.ok.inj h
    unfold textToNumber at hn
    split at hn
    · exact hfinite _ hn
    · exact hn ▸ hzero
  | null | bool | list | object => exact Except.ok.inj h ▸ hzero

namespace Calculation

/-- The ranks that are written are those of the doubles of a field. -/
theorem exists_apply_rank {c : Calculation} {field : String} {rows : List Row}
    (hrule : c.rule = .rank field)
    (hread : ∀ row ∈ rows, ∃ n, (row.cell field).toNumber = .ok n) :
    ∃ value : Row → Double,
      (∀ row ∈ rows, (value row).isFinite = true ∧
        ∃ n, (row.cell field).toNumber = .ok n ∧ n.toDouble = .ok (value row)) ∧
      c.apply rows = .ok (assign c.output rows
        ((Series.ranks (rows.map value)).map fun (rank : Nat) => Value.int rank)) := by
  have hdouble : ∀ row ∈ rows, (do (← (row.cell field).toNumber).toDouble : Outcome Double).Yields
      fun x => x.isFinite = true := by
    intro row hrow
    obtain ⟨n, hn⟩ := hread row hrow
    rw [hn]
    exact Value.yields_toDouble hn
  obtain ⟨series, hseries⟩ := Outcome.exists_mapM_iff.2 fun row hrow =>
    Exists.imp (fun _ => And.left) (hdouble row hrow)
  obtain ⟨value, rfl, hvalue⟩ := Outcome.exists_map_of_mapM hseries
  refine ⟨value, fun row hrow => ⟨?_, Outcome.bind_eq_ok.1 (hvalue row hrow)⟩, ?_⟩
  · obtain ⟨x, hx, hfinite⟩ := hdouble row hrow
    rwa [Except.ok.inj ((hvalue row hrow).symm.trans hx)]
  · have hofField : Series.ofField field rows = .ok (rows.map value) := hseries
    rw [apply, hrule, values?, hofField]
    rfl

/-- **A rank is a stable ranking.** On rows whose cells have numbers, the ranks are the numbers from
one up, and a row ranks before another if the double of its number is greater, or equal and the row
comes first. -/
theorem apply_rank {c : Calculation} {field : String} {rows : List Row}
    (hrule : c.rule = .rank field)
    (hread : ∀ row ∈ rows, ∃ n, (row.cell field).toNumber = .ok n) :
    ∃ (value : Row → Double) (ranks : List Nat),
      (∀ row ∈ rows, ∃ n, (row.cell field).toNumber = .ok n ∧ n.toDouble = .ok (value row)) ∧
      c.apply rows = .ok (assign c.output rows (ranks.map fun (rank : Nat) => Value.int rank)) ∧
      ranks.Perm (List.range' 1 rows.length) ∧
      ∀ (i j : Nat) (a b : Row) (r s : Nat), rows[i]? = some a → rows[j]? = some b →
        ranks[i]? = some r → ranks[j]? = some s →
        (r < s ↔ (value a).compare? (value b) = some .gt ∨
          (value a).compare? (value b) = some .eq ∧ i < j) := by
  obtain ⟨value, hvalue, happly⟩ := exists_apply_rank hrule hread
  have hfinite : ∀ x ∈ rows.map value, x.isFinite = true :=
    List.forall_mem_map.2 fun row hrow => (hvalue row hrow).1
  have hperm := Series.perm_ranks hfinite
  rw [List.length_map] at hperm
  refine ⟨value, _, fun row hrow => (hvalue row hrow).2, happly, hperm, ?_⟩
  intro i j a b r s ha hb hr hs
  have hposition : ∀ {k row}, rows[k]? = some row → (rows.map value)[k]? = some (value row) :=
    fun hrow => by rw [List.getElem?_map, hrow, Option.map_some]
  exact Series.ranks_lt_iff hfinite (hposition ha) (hposition hb) hr hs

/-- A calculation of the ranks of sales. -/
def salesRank : Calculation := ⟨"ranks", "Ranks", "rank", .rank "sales"⟩

/-- Sales, two of them equal, one a text, one missing and one negative. -/
def tiedSales : List Row :=
  [.int 5, .text "9 pieces", .double (.ofNat 5), .null, .int (-1)].map fun sales =>
    .ofList [("sales", sales)]

theorem apply_rank_tied :
    (∀ row ∈ tiedSales, ∃ n, (row.cell "sales").toNumber = .ok n) ∧
      ∃ (value : Row → Double) (ranks : List Nat), ranks = [2, 1, 3, 4, 5] ∧
        ranks.Perm (List.range' 1 5) ∧
        ∀ (i j : Nat) (a b : Row) (r s : Nat), tiedSales[i]? = some a → tiedSales[j]? = some b →
          ranks[i]? = some r → ranks[j]? = some s →
          (r < s ↔ (value a).compare? (value b) = some .gt ∨
            (value a).compare? (value b) = some .eq ∧ i < j) := by
  have hread : ∀ row ∈ tiedSales, ∃ n, (row.cell "sales").toNumber = .ok n := by
    have hnumbers : ∀ row ∈ tiedSales, (row.cell "sales").toNumber.toBool = true := by
      decide +kernel
    intro row hrow
    exact Exists.imp (fun _ => And.left) (Outcome.yields_of_toBool (hnumbers row hrow))
  have hranked : salesRank.apply tiedSales = .ok (assign salesRank.output tiedSales
      ([2, 1, 3, 4, 5].map fun (rank : Nat) => Value.int rank)) := by
    decide +kernel
  obtain ⟨value, ranks, -, happly, hperm, hiff⟩ := apply_rank (c := salesRank) rfl hread
  refine ⟨hread, value, ranks, ?_, hperm, hiff⟩
  -- The ranks can be read from the rows that they are written to.
  have hwritten := congrArg (List.map (·.cell salesRank.output))
    (Except.ok.inj (happly.symm.trans hranked))
  have hlength : ranks.length = tiedSales.length := hperm.length_eq
  rw [map_cell_output _ (by rw [List.length_map, hlength]), map_cell_output _ rfl] at hwritten
  refine List.map_injective_iff.2 (fun r s heq => ?_) hwritten
  exact Int.ofNat.inj (Number.int.inj (Value.number.inj heq))

end Calculation

end Reporting
