import Mathlib.Data.List.DropRight
import Reporting.Proofs.ExactIntegers
import Reporting.Proofs.Pipeline

/-!
# Series of integers

Series are made of doubles. On integers that come to no more than `2 ^ 53` all together each step of
them is exact: the compensations of a moving window stay zero, its total is the sum of its values,
and so is the product that stands for the total of equal ones (`Series.Window.Sums`). Hence the
changes, running totals and rolling totals of a field are the integers of these names
(`Calculation.apply_series_ints`).
-/

namespace Reporting

/-! ## Changes and totals of integers -/

namespace Series

/-- A function of each beginning of a list, from the shortest on. -/
def overBeginnings (f : List Int → Int) (ns : List Int) : List Int :=
  (List.range ns.length).map fun i => f (ns.take (i + 1))

/-- The difference of each integer and the one before; the first has none and shows zero. -/
def intChanges : List Int → List Int
  | [] => []
  | n :: rest => 0 :: List.zipWith (· - ·) rest (n :: rest)

/-- The sum of each integer and all before it. -/
def intTotals (ns : List Int) : List Int := overBeginnings List.sum ns

/-- The sum of each integer and those before it, up to `size` integers in all. -/
def intWindowTotals (size : Nat) (ns : List Int) : List Int :=
  overBeginnings (fun seen => (seen.rtake size).sum) ns

variable {f g : List Int → Int} {ns : List Int}

theorem overBeginnings_cons (f : List Int → Int) (n : Int) (rest : List Int) :
    overBeginnings f (n :: rest) = f [n] :: overBeginnings (fun seen => f (n :: seen)) rest := by
  rw [overBeginnings, List.length_cons, List.range_succ_eq_map, List.map_cons, List.map_map]
  rfl

theorem overBeginnings_congr (h : ∀ seen, seen.Sublist ns → f seen = g seen) :
    overBeginnings f ns = overBeginnings g ns :=
  List.map_congr_left fun _ _ => h _ (List.take_sublist _ _)

theorem length_overBeginnings (f : List Int → Int) (ns : List Int) :
    (overBeginnings f ns).length = ns.length := by
  rw [overBeginnings, List.length_map, List.length_range]

theorem sum_overBeginnings_cons (total n : Int) (rest : List Int) :
    overBeginnings (fun seen => total + seen.sum) (n :: rest) =
      (total + n) :: overBeginnings (fun seen => total + n + seen.sum) rest := by
  simp only [overBeginnings_cons, List.sum_cons, List.sum_nil, Int.add_zero, Int.add_assoc]

theorem intTotals_cons (n : Int) (rest : List Int) :
    intTotals (n :: rest) = n :: overBeginnings (fun seen => n + seen.sum) rest := by
  simp only [intTotals, overBeginnings_cons, List.sum_cons, List.sum_nil, Int.add_zero]

theorem rtake_of_length_le {size : Nat} (h : ns.length ≤ size) : ns.rtake size = ns := by
  rw [List.rtake, Nat.sub_eq_zero_of_le h, List.drop_zero]

theorem rtake_succ_of_lt {size : Nat} (h : size < ns.length) :
    ∃ oldest, ns.rtake (size + 1) = oldest :: ns.rtake size := by
  have hposition : ns.length - (size + 1) + 1 = ns.length - size := by omega
  refine ⟨ns[ns.length - (size + 1)], ?_⟩
  rw [List.rtake, List.drop_eq_getElem_cons (by omega), hposition, List.rtake]

theorem rtake_sublist (ns : List Int) (size : Nat) : (ns.rtake size).Sublist ns :=
  List.drop_sublist _ _

/-- A window over all integers and one over the last integer only. -/
theorem intWindowTotals_of_length_le {size : Nat} (h : ns.length ≤ size) :
    intWindowTotals size ns = intTotals ns :=
  overBeginnings_congr fun _ hseen => by rw [rtake_of_length_le (hseen.length_le.trans h)]

theorem intWindowTotals_one (ns : List Int) : intWindowTotals 1 ns = ns := by
  refine List.ext_getElem (length_overBeginnings _ _) fun i hi hi' => ?_
  simp only [intWindowTotals, overBeginnings, List.getElem_map, List.getElem_range]
  rw [List.take_succ_eq_append_getElem hi', List.rtake_concat_succ, List.rtake_zero,
    List.nil_append, List.sum_singleton]

/-- The changes of running totals are the integers that were added. -/
theorem zipWith_sub_overBeginnings (total : Int) (ns : List Int) :
    List.zipWith (· - ·) (overBeginnings (fun seen => total + seen.sum) ns)
      (total :: overBeginnings (fun seen => total + seen.sum) ns) = ns := by
  induction ns generalizing total with
  | nil => rfl
  | cons n rest ih =>
    rw [sum_overBeginnings_cons, List.zipWith_cons_cons, ih, add_sub_cancel_left]

theorem intChanges_intTotals (n : Int) (rest : List Int) :
    intChanges (intTotals (n :: rest)) = 0 :: rest := by
  rw [intTotals_cons, intChanges, zipWith_sub_overBeginnings]

/-! ## Changes and running totals of doubles -/

variable {xs : List Double}

theorem changesFrom_ints (h : List.Forall₂ Double.IsInt xs ns) {previous : Double} {p : Int}
    (hprevious : previous.IsInt p)
    (hsmall : ∀ d ∈ List.zipWith (· - ·) ns (p :: ns), d.natAbs ≤ 2 ^ 53) :
    List.Forall₂ Double.IsInt (changesFrom previous xs)
      (List.zipWith (· - ·) ns (p :: ns)) := by
  induction h generalizing previous p with
  | nil => exact .nil
  | cons hx _ ih =>
    rw [List.zipWith_cons_cons] at hsmall ⊢
    obtain ⟨hfirst, hrest⟩ := List.forall_mem_cons.1 hsmall
    exact .cons (Double.toInt?_sub hx hprevious hfirst) (ih hx hrest)

/-- **Changes of integers are exact** if they are no larger than `2 ^ 53`. -/
theorem changes_ints (h : List.Forall₂ Double.IsInt xs ns)
    (hsmall : ∀ d ∈ intChanges ns, d.natAbs ≤ 2 ^ 53) :
    List.Forall₂ Double.IsInt (changes xs) (intChanges ns) := by
  cases h with
  | nil => exact .nil
  | cons hx hrest =>
    exact .cons (Double.toInt?_zero false)
      (changesFrom_ints hrest hx (List.forall_mem_cons.1 hsmall).2)

theorem totalsFrom_ints (h : List.Forall₂ Double.IsInt xs ns) {total : Double} {t : Int}
    (htotal : total.IsInt t) (hsize : t.natAbs + (ns.map Int.natAbs).sum ≤ 2 ^ 53) :
    List.Forall₂ Double.IsInt (totalsFrom total xs)
      (overBeginnings (fun seen => t + seen.sum) ns) := by
  induction h generalizing total t with
  | nil => exact .nil
  | cons hx _ ih =>
    rw [List.map_cons, List.sum_cons] at hsize
    rw [sum_overBeginnings_cons]
    have hnext := Double.toInt?_add htotal hx (by omega)
    exact .cons hnext (ih hnext (by omega))

/-- **Running totals of integers are exact** if these come to no more than `2 ^ 53`. -/
theorem runningTotals_ints (h : List.Forall₂ Double.IsInt xs ns)
    (hsize : (ns.map Int.natAbs).sum ≤ 2 ^ 53) :
    List.Forall₂ Double.IsInt (runningTotals xs) (intTotals ns) := by
  cases h with
  | nil => exact .nil
  | cons hx hrest =>
    rw [intTotals_cons]
    exact .cons hx (totalsFrom_ints hrest hx hsize)

/-! ## Rolling totals of doubles -/

namespace Window

/-- A window that sums up the given integers exactly, with the last of those that were seen. -/
structure Sums (w : Window) (window seen : List Int) : Prop where
  total : w.total.IsInt window.sum
  entering : w.entering.IsInt 0
  leaving : w.leaving.IsInt 0
  same : ∃ n, w.last.IsInt n ∧ seen.rtake w.same = List.replicate w.same n

variable {w : Window} {x : Double} {n : Int} {window seen : List Int}

theorem sums_before (hx : x.IsInt n) (seen : List Int) : (before x).Sums [] seen :=
  ⟨Double.toInt?_zero false, Double.toInt?_zero false, Double.toInt?_zero false, n, hx,
    List.rtake_zero seen⟩

/-- Adding integers leaves nothing to compensate. -/
theorem compensated_ints {total term : Double} {t d : Int} (htotal : total.IsInt t)
    (hterm : term.IsInt d) (hsum : (t + d).natAbs ≤ 2 ^ 53) (hd : d.natAbs ≤ 2 ^ 53) :
    (total.add term).IsInt (t + d) ∧ (((total.add term).sub total).sub term).IsInt 0 := by
  have hnext := Double.toInt?_add htotal hterm hsum
  have hpart : ((total.add term).sub total).IsInt d := by
    have hsub := Double.toInt?_sub hnext htotal (by omega)
    rwa [add_sub_cancel_left] at hsub
  have hrest := Double.toInt?_sub hpart hterm (by omega)
  rw [Int.sub_self] at hrest
  exact ⟨hnext, hrest⟩

/-- A value that leaves takes its part of the total along. -/
theorem Sums.leave (h : w.Sums (n :: window) seen) (hx : x.IsInt n) (hn : n.natAbs ≤ 2 ^ 53)
    (hsum : window.sum.natAbs ≤ 2 ^ 53) : (w.leave x).Sums window seen := by
  have hterm : (x.neg.sub w.leaving).IsInt (-n) := by
    have hsub := Double.toInt?_sub (Double.toInt?_neg hx) h.leaving (by omega)
    rwa [Int.sub_zero] at hsub
  have hrest : (n :: window).sum + -n = window.sum := by
    rw [List.sum_cons, add_neg_cancel_comm]
  obtain ⟨htotal, hleaving⟩ :=
    compensated_ints h.total hterm (by rwa [hrest]) (by rwa [Int.natAbs_neg])
  rw [hrest] at htotal
  exact ⟨htotal, h.entering, hleaving, h.same⟩

/-- A value that enters adds its part to the total. -/
theorem Sums.enter (h : w.Sums window seen) (hx : x.IsInt n) (hn : n.natAbs ≤ 2 ^ 53)
    (hsum : (window ++ [n]).sum.natAbs ≤ 2 ^ 53) :
    (w.enter x).Sums (window ++ [n]) (seen ++ [n]) := by
  have hterm : (x.sub w.entering).IsInt n := by
    have hsub := Double.toInt?_sub hx h.entering (by omega)
    rwa [Int.sub_zero] at hsub
  have hmore : window.sum + n = (window ++ [n]).sum := by simp
  obtain ⟨htotal, hentering⟩ := compensated_ints h.total hterm (by rwa [hmore]) hn
  rw [hmore] at htotal
  refine ⟨htotal, hentering, h.leaving, n, hx, ?_⟩
  obtain ⟨last, hlast, hsame⟩ := h.same
  have hcompare := Double.compare?_of_toInt? hx hlast
  by_cases heq : n = last
  · have hcount : (w.enter x).same = w.same + 1 := by
      rw [Window.enter, hcompare, heq, compare_eq_iff_eq.2 rfl]
      rfl
    rw [hcount, List.rtake_concat_succ, hsame, heq, List.replicate_succ']
  · have hcount : (w.enter x).same = 1 := by
      refine if_neg fun h => heq ?_
      rw [hcompare] at h
      exact compare_eq_iff_eq.1 (Option.some.inj h)
    rw [hcount, List.rtake_concat_succ, List.rtake_zero]
    rfl

/-- The total that is read off a window: the product for equal values is their sum too. -/
theorem Sums.read {size : Nat} (h : w.Sums (seen.rtake size) seen) (hlimit : size < 2 ^ 63)
    (hsum : (seen.rtake size).sum.natAbs ≤ 2 ^ 53) :
    (w.read (min seen.length size)).IsInt (seen.rtake size).sum := by
  rw [Window.read]
  split
  · next hcount =>
    obtain ⟨n, hlast, hsame⟩ := h.same
    have hlength : w.same ≤ seen.length := by
      have hle := (rtake_sublist seen w.same).length_le
      rwa [hsame, List.length_replicate] at hle
    have hconst : seen.rtake size = List.replicate (min seen.length size) n := by
      refine List.eq_replicate_iff.2 ⟨by rw [List.rtake, List.length_drop]; omega, ?_⟩
      intro m hm
      have hsub : (seen.rtake size).Sublist (seen.rtake w.same) :=
        List.drop_sublist_drop_left seen (by omega)
      exact List.eq_of_mem_replicate (hsame ▸ hsub.mem hm)
    have hproduct : (seen.rtake size).sum = n * (min seen.length size : Nat) := by
      rw [hconst, List.sum_replicate, nsmul_eq_mul, Int.mul_comm]
    rw [hproduct] at hsum ⊢
    exact Double.toInt?_mul_ofNat hlast (by omega) hsum
  · exact h.total

end Window

section Rolling

variable {size : Nat} {w : Window} {x : Double} {n : Int} {seen : List Int}
  {departing : List Double}

/-- **A moving window keeps its sum.** As the next integer comes, the window of the last `size` ones
sums up those again. -/
theorem advance_sums {rest : List Int} (hw : w.Sums (seen.rtake (size + 1)) seen)
    (hx : x.IsInt n)
    (hdeparting : List.Forall₂ Double.IsInt departing (seen.rtake (size + 1) ++ n :: rest))
    (hbound : ((seen ++ n :: rest).map Int.natAbs).sum ≤ 2 ^ 53) :
    (advance (size + 1) seen.length w x (departing.headD (.zero false))).Sums
      ((seen ++ [n]).rtake (size + 1)) (seen ++ [n]) := by
  have hpart : ∀ {part : List Int}, part.Sublist (seen ++ [n]) → part.sum.natAbs ≤ 2 ^ 53 := by
    intro part hsublist
    have hseen : (seen ++ [n]).Sublist (seen ++ n :: rest) :=
      List.Sublist.append_left (List.Sublist.cons_cons n (List.nil_sublist rest)) seen
    exact (natAbs_sum_le_of_sublist (hsublist.trans hseen)).trans hbound
  have hsmall : ∀ m ∈ seen ++ [n], m.natAbs ≤ 2 ^ 53 := by
    intro m hm
    simpa using hpart (List.singleton_sublist.2 hm)
  have hwindow := List.rtake_concat_succ (l := seen) (n := size) n
  have hsum := hpart (rtake_sublist (seen ++ [n]) (size + 1))
  rw [hwindow] at hsum ⊢
  -- Whatever is done before, the last `size` integers are summed up as the next one enters.
  refine Window.Sums.enter ?_ hx (hsmall n (by simp)) hsum
  have hkept := hpart ((rtake_sublist seen size).trans (List.sublist_append_left seen [n]))
  split
  · next hfresh =>
    have hempty : seen.rtake size = [] := by
      obtain hnil | hone := hfresh
      · rw [List.eq_nil_of_length_eq_zero hnil, List.rtake_nil]
      · rw [Nat.succ.inj hone, List.rtake_zero]
    rw [hempty]
    exact Window.sums_before hx seen
  · split
    · next hfull =>
      obtain ⟨oldest, holdest⟩ := rtake_succ_of_lt hfull
      have hmem : oldest ∈ seen := (rtake_sublist seen (size + 1)).mem (by simp [holdest])
      rw [holdest] at hw hdeparting
      cases hdeparting with
      | cons hleaves _ =>
        exact hw.leave hleaves (hsmall oldest (List.mem_append_left _ hmem)) hkept
    · next hpartial =>
      rw [rtake_of_length_le (by omega)] at hw ⊢
      exact hw

/-- The values that have not left the window are those of the window and those to come. -/
theorem departing_ints {rest : List Int}
    (h : List.Forall₂ Double.IsInt departing (seen.rtake (size + 1) ++ n :: rest)) :
    List.Forall₂ Double.IsInt
      (if size + 1 ≤ seen.length then departing.tail else departing)
      ((seen ++ [n]).rtake (size + 1) ++ rest) := by
  rw [List.rtake_concat_succ, List.append_assoc, List.singleton_append]
  split
  · next hfull =>
    obtain ⟨oldest, holdest⟩ := rtake_succ_of_lt hfull
    rw [holdest] at h
    cases h with
    | cons _ hrest => exact hrest
  · next hpartial =>
    rw [rtake_of_length_le (by omega)] at h ⊢
    exact h

theorem rollingFrom_ints (hlimit : size + 1 < 2 ^ 63) (h : List.Forall₂ Double.IsInt xs ns)
    (hw : w.Sums (seen.rtake (size + 1)) seen)
    (hdeparting : List.Forall₂ Double.IsInt departing (seen.rtake (size + 1) ++ ns))
    (hbound : ((seen ++ ns).map Int.natAbs).sum ≤ 2 ^ 53) :
    List.Forall₂ Double.IsInt (rollingFrom (size + 1) seen.length w departing xs)
      (overBeginnings (fun later => ((seen ++ later).rtake (size + 1)).sum) ns) := by
  induction h generalizing seen w departing with
  | nil => exact .nil
  | @cons x n xs rest hx _ ih =>
    have hnext := advance_sums hw hx hdeparting hbound
    have hlength : (seen ++ [n]).length = seen.length + 1 := List.length_append
    rw [List.append_cons seen n rest] at hbound
    have hsum : ((seen ++ [n]).rtake (size + 1)).sum.natAbs ≤ 2 ^ 53 :=
      (natAbs_sum_le_of_sublist
        ((rtake_sublist _ _).trans (List.sublist_append_left _ rest))).trans hbound
    have hread := hnext.read hlimit hsum
    have hrest := ih hnext (departing_ints hdeparting) hbound
    rw [hlength] at hread hrest
    have hlater : (fun later => ((seen ++ n :: later).rtake (size + 1)).sum) =
        fun later => ((seen ++ [n] ++ later).rtake (size + 1)).sum :=
      funext fun later => by rw [List.append_cons]
    rw [overBeginnings_cons, hlater]
    exact .cons hread hrest

/-- **Rolling totals of integers are exact** if these come to no more than `2 ^ 53`. -/
theorem rollingTotals_ints (hpositive : 0 < size) (hlimit : size < 2 ^ 63)
    (h : List.Forall₂ Double.IsInt xs ns) (hsize : (ns.map Int.natAbs).sum ≤ 2 ^ 53) :
    List.Forall₂ Double.IsInt (rollingTotals size xs) (intWindowTotals size ns) := by
  obtain ⟨size, rfl⟩ := Nat.exists_eq_add_of_lt hpositive
  rw [Nat.zero_add] at hlimit ⊢
  have hstart : (Window.before (.zero false)).Sums (([] : List Int).rtake (size + 1)) [] := by
    rw [List.rtake_nil]
    exact Window.sums_before (Double.toInt?_zero false) []
  have hdeparting : List.Forall₂ Double.IsInt xs (([] : List Int).rtake (size + 1) ++ ns) := by
    rwa [List.rtake_nil]
  exact rollingFrom_ints hlimit h hstart hdeparting hsize

end Rolling

/-! ## Bounds -/

theorem natAbs_zipWith_sub_le {top : Nat} (p : Int)
    (h : p.natAbs + (ns.map Int.natAbs).sum ≤ top) :
    ∀ d ∈ List.zipWith (· - ·) ns (p :: ns), d.natAbs ≤ top := by
  induction ns generalizing p with
  | nil => exact nofun
  | cons n rest ih =>
    rw [List.map_cons, List.sum_cons] at h
    rw [List.zipWith_cons_cons]
    exact List.forall_mem_cons.2 ⟨by omega, ih n (by omega)⟩

theorem natAbs_intChanges_le {top : Nat} (h : (ns.map Int.natAbs).sum ≤ top) :
    ∀ d ∈ intChanges ns, d.natAbs ≤ top := by
  cases ns with
  | nil => exact nofun
  | cons n rest => exact List.forall_mem_cons.2 ⟨Nat.zero_le _, natAbs_zipWith_sub_le n h⟩

theorem natAbs_intTotals_le {top : Nat} (h : (ns.map Int.natAbs).sum ≤ top) :
    ∀ t ∈ intTotals ns, t.natAbs ≤ top := by
  refine List.forall_mem_map.2 fun i _ => ?_
  exact (natAbs_sum_le_of_sublist (List.take_sublist (i + 1) ns)).trans h

end Series

/-! ## Calculations on integers -/

/-- The integer of a number, towards zero. -/
def Number.truncate : Number → Int
  | .int n => n
  | .double x => x.truncate

/-- How many values a window adds up: three for null, and for any other value its number towards
zero, but never less than one. -/
def Value.IsWindow (window : Value) (size : Int) : Prop :=
  (window = .null ∧ size = 3) ∨
    (window ≠ .null ∧ ∃ n, window.toNumber = .ok n ∧ size = max 1 n.truncate)

namespace Calculation

open Series

variable {c : Calculation} {field : String} {rows : List Row} {ns : List Int}

theorem map_doubleCell {xs : List Double} (h : List.Forall₂ Double.IsInt xs ns) :
    xs.map doubleCell = ns.map Value.int := by
  induction h with
  | nil => rfl
  | cons hx _ ih =>
    rw [List.map_cons, List.map_cons, ih, doubleCell, Number.integral, hx]
    rfl

/-- Integers up to `2 ^ 53` are the doubles of their field. -/
theorem exists_ofField (hread : rows.mapM (fun row => (row.cell field).toNumber) =
    .ok (ns.map .int)) (hsmall : ∀ n ∈ ns, n.natAbs ≤ 2 ^ 53) :
    ∃ xs, ofField field rows = .ok xs ∧ List.Forall₂ Double.IsInt xs ns := by
  have hrows := List.forall₂_map_right_iff.1 (Outcome.mapM_eq_ok.1 hread)
  clear hread
  induction hrows with
  | nil => exact ⟨[], rfl, .nil⟩
  | cons hrow _ ih =>
    obtain ⟨hfirst, hrest⟩ := List.forall_mem_cons.1 hsmall
    obtain ⟨xs, hxs, hints⟩ := ih hrest
    obtain ⟨x, hx, hn⟩ := Double.exists_ofInt? hfirst
    refine ⟨x :: xs, ?_, .cons hn hints⟩
    rw [ofField] at hxs
    rw [ofField, List.mapM_cons, hxs, hrow, Outcome.ok_bind, Number.toDouble, Number.intToDouble,
      hx]
    rfl

/-- Integers that were written to an output are its numbers. -/
theorem mapM_toNumber_assign (output : String) (hlength : ns.length = rows.length)
    (hsmall : ∀ n ∈ ns, n.natAbs ≤ 2 ^ 53) :
    (assign output rows (ns.map .int)).mapM (fun row => (row.cell output).toNumber) =
      .ok (ns.map .int) := by
  have hcells := map_cell_output output ((List.length_map Value.int).trans hlength)
  rw [← Function.comp_def Value.toNumber, ← List.mapM_map, hcells, List.mapM_map]
  refine Outcome.mapM_eq_ok_map fun n hn => ?_
  rw [Function.comp_apply]
  exact Value.toNumber_int (Number.fits_int ((hsmall n hn).trans (by decide)))

theorem windowSize_of_isWindow {window : Value} {size : Int} (h : window.IsWindow size) :
    windowSize window = .ok size := by
  obtain ⟨rfl, rfl⟩ | ⟨hnull, n, hn, rfl⟩ := h
  · rfl
  · rw [windowSize]
    · rw [hn]
      cases n <;> rfl
    · exact hnull

theorem apply_change_ints {period : Period} (hrule : c.rule = .change period field)
    (hread : rows.mapM (fun row => (row.cell field).toNumber) = .ok (ns.map .int))
    (hsmall : ∀ n ∈ ns, n.natAbs ≤ 2 ^ 53) (hchanges : ∀ d ∈ intChanges ns, d.natAbs ≤ 2 ^ 53) :
    c.apply rows = .ok (assign c.output rows ((intChanges ns).map .int)) := by
  obtain ⟨xs, hxs, hints⟩ := exists_ofField hread hsmall
  rw [apply, hrule, values?, hxs, ← map_doubleCell (changes_ints hints hchanges)]
  rfl

section Bounded

variable (hread : rows.mapM (fun row => (row.cell field).toNumber) = .ok (ns.map .int))
  (hsize : (ns.map Int.natAbs).sum ≤ 2 ^ 53)

include hread hsize

theorem apply_yearToDate_ints (hrule : c.rule = .yearToDate field) :
    c.apply rows = .ok (assign c.output rows ((intTotals ns).map .int)) := by
  obtain ⟨xs, hxs, hints⟩ := exists_ofField hread fun n hn =>
    (natAbs_le_sum_of_mem hn).trans hsize
  rw [apply, hrule, values?, hxs, ← map_doubleCell (runningTotals_ints hints hsize)]
  rfl

theorem apply_rolling_ints {window : Value} {size : Int} (hrule : c.rule = .rolling field window)
    (hwindow : window.IsWindow size) (hlimit : size ≤ largestWindow) :
    c.apply rows = .ok (assign c.output rows ((intWindowTotals size.toNat ns).map .int)) := by
  obtain ⟨xs, hxs, hints⟩ := exists_ofField hread fun n hn =>
    (natAbs_le_sum_of_mem hn).trans hsize
  have hrange : 0 < size.toNat ∧ size.toNat < 2 ^ 63 := by
    rw [largestWindow] at hlimit
    obtain ⟨-, rfl⟩ | ⟨-, n, -, rfl⟩ := hwindow <;> omega
  have htotals := map_doubleCell (rollingTotals_ints hrange.1 hrange.2 hints hsize)
  rw [apply, hrule, values?, rollingValues, windowSize_of_isWindow hwindow, Outcome.ok_bind, hxs,
    Outcome.ok_bind, if_pos hlimit, ← htotals]
  rfl

/-- The changes of a year-to-date field are the integers that it adds up. -/
theorem applyAll_change_yearToDate {ytd : Calculation} {period : Period}
    (hytd : ytd.rule = .yearToDate field) (hchange : c.rule = .change period ytd.output) :
    applyAll [ytd, c] rows = .ok (assign c.output
      (assign ytd.output rows ((intTotals ns).map .int)) ((0 :: ns.tail).map .int)) := by
  have hlength := Outcome.length_of_mapM hread
  rw [List.length_map] at hlength
  by_cases hrows : rows = []
  · subst hrows
    rfl
  · have hne : ns ≠ [] := by
      rintro rfl
      exact hrows (List.length_eq_zero_iff.1 hlength.symm)
    obtain ⟨n, later, rfl⟩ := List.exists_cons_of_ne_nil hne
    have htotals := natAbs_intTotals_le hsize
    have hcount : (intTotals (n :: later)).length = rows.length :=
      (length_overBeginnings List.sum (n :: later)).trans hlength
    have hnumbers := mapM_toNumber_assign ytd.output hcount htotals
    have hchanges : ∀ d ∈ intChanges (intTotals (n :: later)), d.natAbs ≤ 2 ^ 53 := by
      rw [intChanges_intTotals]
      refine List.forall_mem_cons.2 ⟨Nat.zero_le _, fun d hd => ?_⟩
      exact (natAbs_le_sum_of_mem (List.mem_cons_of_mem n hd)).trans hsize
    have hdelta := apply_change_ints hchange hnumbers htotals hchanges
    rw [intChanges_intTotals] at hdelta
    rw [applyAll_of_ne_nil hrows, List.foldlM_cons, apply_yearToDate_ints hread hsize hytd,
      Outcome.ok_bind, List.foldlM_cons, hdelta, List.tail_cons]
    rfl

/-- **Series of integers are exact.** On a field whose cells count as integers that come to no more
than `2 ^ 53` all together, changes, running totals and rolling totals are those of the integers.
So a window of one shows the integers, a window of the length of the table or more the running
totals, and the changes of running totals are the integers that were added. -/
theorem apply_series_ints :
    (∀ (c : Calculation) (period : Period), c.rule = .change period field →
      c.apply rows = .ok (assign c.output rows ((intChanges ns).map .int))) ∧
    (∀ c : Calculation, c.rule = .yearToDate field →
      c.apply rows = .ok (assign c.output rows ((intTotals ns).map .int))) ∧
    (∀ (c : Calculation) (window : Value) (size : Int), c.rule = .rolling field window →
      window.IsWindow size → size ≤ largestWindow →
      c.apply rows = .ok (assign c.output rows ((intWindowTotals size.toNat ns).map .int)) ∧
      (size = 1 → c.apply rows = .ok (assign c.output rows (ns.map .int))) ∧
      (rows.length ≤ size → ∀ ytd : Calculation, ytd.rule = .yearToDate field →
        ytd.output = c.output → c.apply rows = ytd.apply rows)) ∧
    ∀ (ytd c : Calculation) (period : Period), ytd.rule = .yearToDate field →
      c.rule = .change period ytd.output →
      applyAll [ytd, c] rows = .ok (assign c.output
        (assign ytd.output rows ((intTotals ns).map .int)) ((0 :: ns.tail).map .int)) := by
  have hsmall : ∀ n ∈ ns, n.natAbs ≤ 2 ^ 53 := fun n hn => (natAbs_le_sum_of_mem hn).trans hsize
  refine ⟨fun c period hrule => apply_change_ints hrule hread hsmall (natAbs_intChanges_le hsize),
    fun c hrule => apply_yearToDate_ints hread hsize hrule,
    fun c window size hrule hwindow hlimit => ?_,
    fun ytd c period hytd hchange => applyAll_change_yearToDate hread hsize hytd hchange⟩
  have hrolling := apply_rolling_ints hread hsize hrule hwindow hlimit
  refine ⟨hrolling, fun hone => ?_, fun hlong ytd hytd houtput => ?_⟩
  · rw [hrolling, hone, Int.toNat_one, intWindowTotals_one]
  · have hlength : ns.length ≤ size.toNat := by
      have heq := Outcome.length_of_mapM hread
      rw [List.length_map] at heq
      omega
    rw [hrolling, apply_yearToDate_ints hread hsize hytd, houtput,
      intWindowTotals_of_length_le hlength]

end Bounded

/-- Sales, the last of them missing. -/
def seriesSales : List Row :=
  [.int 10, .int 15, .int (-12), .text "n/a"].map fun sales => .ofList [("sales", sales)]

/-- A calculation with a rule. -/
def ruled (output : String) (rule : Rule) : Calculation := ⟨output, output, output, rule⟩

theorem apply_series_ints_sales :
    seriesSales.mapM (fun row => (row.cell "sales").toNumber) =
      .ok ([10, 15, -12, 0].map .int) ∧
    (Value.text "2.9").IsWindow 2 ∧
    (ruled "delta" (.change .quarter "sales")).apply seriesSales =
      .ok (assign "delta" seriesSales ([0, 5, -27, 12].map .int)) ∧
    (ruled "ytd" (.yearToDate "sales")).apply seriesSales =
      .ok (assign "ytd" seriesSales ([10, 25, 13, 13].map .int)) ∧
    (ruled "rolling" (.rolling "sales" (.text "2.9"))).apply seriesSales =
      .ok (assign "rolling" seriesSales ([10, 25, 3, -12].map .int)) ∧
    (ruled "rolling" (.rolling "sales" (.int (-4)))).apply seriesSales =
      .ok (assign "rolling" seriesSales ([10, 15, -12, 0].map .int)) ∧
    (ruled "ytd" (.rolling "sales" (.int (2 ^ 63 - 1)))).apply seriesSales =
      (ruled "ytd" (.yearToDate "sales")).apply seriesSales := by
  have hread : seriesSales.mapM (fun row => (row.cell "sales").toNumber) =
      .ok ([10, 15, -12, 0].map .int) := by decide +kernel
  have hwindow : (Value.text "2.9").IsWindow 2 := by
    let number := (Value.text "2.9").toNumber.toOption.getD (.int 0)
    exact .inr ⟨nofun, number, by decide +kernel, by decide +kernel⟩
  have hleast : (Value.int (-4)).IsWindow 1 := .inr ⟨nofun, .int (-4), by decide +kernel, rfl⟩
  have hlargest : (Value.int (2 ^ 63 - 1)).IsWindow (2 ^ 63 - 1) :=
    .inr ⟨nofun, .int (2 ^ 63 - 1), by decide +kernel, by decide⟩
  obtain ⟨hchange, hytd, hrolling, -⟩ := apply_series_ints hread (by decide)
  refine ⟨hread, hwindow, hchange _ .quarter rfl, hytd _ rfl, ?_, ?_, ?_⟩
  · exact (hrolling _ _ 2 rfl hwindow (by decide)).1
  · exact (hrolling _ _ 1 rfl hleast (by decide)).2.1 rfl
  · exact (hrolling _ _ (2 ^ 63 - 1) rfl hlargest (by decide)).2.2 (by decide) _ rfl rfl

end Calculation

end Reporting
