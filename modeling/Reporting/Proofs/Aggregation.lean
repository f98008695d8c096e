import Mathlib.Algebra.BigOperators.Group.List.Basic
import Mathlib.Algebra.Order.Group.Int
import Reporting.Grouping

/-!
# Aggregates of integers

On integers an aggregation is a function of its own (`Aggregation.ofInts`, `apply_ints`). The sum,
the least, the greatest and the count do not depend on the order of the integers (`ofInts_perm`),
and roll up: the aggregate of a whole is one of the aggregates of its parts (`ofInts_flatten`). No
aggregate of integers depends on their order (`apply_perm`).
-/

namespace Reporting

/-! ## Joining integers one by one -/

section Join

variable (op : Int → Int → Int)

/-- Joins one integer more. -/
def joinNext : Option Int → Int → Option Int
  | none, n => some n
  | some m, n => some (op m n)

/-- The join of integers, if there are any. -/
def joined? (ns : List Int) : Option Int := ns.foldl (joinNext op) none

theorem foldl_joinNext_some (m : Int) (ns : List Int) :
    ns.foldl (joinNext op) (some m) = some (ns.foldl op m) := by
  induction ns generalizing m with
  | nil => rfl
  | cons n ns ih => exact ih (op m n)

theorem joined?_cons (n : Int) (ns : List Int) : joined? op (n :: ns) = some (ns.foldl op n) :=
  foldl_joinNext_some op n ns

variable [Std.Associative op] [Std.Commutative op]

theorem joined?_perm {ns ms : List Int} (h : ns.Perm ms) : joined? op ns = joined? op ms := by
  refine h.foldl_eq' (fun n _ m _ before => ?_) none
  cases before with
  | none => exact congrArg some (Std.Commutative.comm n m)
  | some k =>
    have assoc : ∀ a b c, op (op a b) c = op a (op b c) := Std.Associative.assoc
    have comm : ∀ a b, op a b = op b a := Std.Commutative.comm
    have hnm : op (op k n) m = op (op k m) n := by
      rw [assoc, comm n m, ← assoc]
    exact congrArg some hnm

omit [Std.Commutative op] in
/-- A part is joined as its own join is. -/
theorem foldl_joinNext {part : List Int} (hpart : part ≠ []) (before : Option Int) :
    part.foldl (joinNext op) before = joinNext op before ((joined? op part).getD 0) := by
  obtain ⟨n, ns, rfl⟩ := List.exists_cons_of_ne_nil hpart
  rw [joined?_cons, Option.getD_some, List.foldl_cons]
  cases before with
  | none => exact foldl_joinNext_some op n ns
  | some m =>
    rw [joinNext, joinNext, foldl_joinNext_some]
    exact congrArg some List.foldl_assoc

omit [Std.Commutative op] in
theorem joined?_flatten {parts : List (List Int)} (hparts : ∀ part ∈ parts, part ≠ []) :
    joined? op (parts.map fun part => (joined? op part).getD 0) = joined? op parts.flatten := by
  rw [joined?, joined?, List.foldl_map, List.foldl_flatten]
  refine List.foldl_ext _ _ _ fun before part hpart => ?_
  exact (foldl_joinNext op (hparts part hpart) before).symm

end Join

/-! ## Aggregations -/

namespace Number

theorem less_int (m n : Int) : (int m).less (int n) = decide (m < n) := by
  simp [less, compare?, Int.compare_eq_lt]

theorem least_int (n : Int) (ns : List Int) :
    least (int n) (ns.map int) = int (ns.foldl min n) := by
  induction ns generalizing n with
  | nil => rfl
  | cons m ns ih =>
    have hnext : (if (int m).less (int n) then int m else int n) = int (min n m) := by
      simp only [less_int, decide_eq_true_eq]
      split
      · next h => rw [Int.min_eq_right (Int.le_of_lt h)]
      · next h => rw [Int.min_eq_left (Int.not_lt.1 h)]
    rw [List.map_cons, least, List.foldl_cons, hnext]
    exact ih (min n m)

theorem greatest_int (n : Int) (ns : List Int) :
    greatest (int n) (ns.map int) = int (ns.foldl max n) := by
  induction ns generalizing n with
  | nil => rfl
  | cons m ns ih =>
    have hnext : (if (int n).less (int m) then int m else int n) = int (max n m) := by
      simp only [less_int, decide_eq_true_eq]
      split
      · next h => rw [Int.max_eq_right (Int.le_of_lt h)]
      · next h => rw [Int.max_eq_left (Int.not_lt.1 h)]
    rw [List.map_cons, greatest, List.foldl_cons, hnext]
    exact ih (max n m)

theorem equals_int (m n : Int) : (int m).equals (int n) = decide (m = n) := by
  simp [equals, compare?]

theorem distinct_int (ns : List Int) : distinct (ns.map int) = (firsts ns).map int := by
  induction ns with
  | nil => rfl
  | cons n ns ih =>
    rw [List.map_cons, distinct, ih, firsts, List.map_cons, List.filter_map]
    refine congrArg (fun kept => int n :: kept.map int) (List.filter_congr fun m _ => ?_)
    rw [Function.comp_apply, equals_int]
    simp [eq_comm]

end Number

namespace Aggregation

/-- The aggregations for which the aggregate of a whole is one of the aggregates of its parts. -/
def RollsUp : Aggregation → Prop
  | .sum | .minimum | .maximum | .count => True
  | .average | .distinctCount => False

instance : DecidablePred RollsUp := fun a => by cases a <;> unfold RollsUp <;> infer_instance

/-- The aggregation that joins the aggregates of parts: counts are added up. -/
def rollUp : Aggregation → Aggregation
  | .count => .sum
  | a => a

theorem rollsUp_rollUp {a : Aggregation} (ha : a.RollsUp) : a.rollUp.RollsUp := by
  cases a <;> exact ha

/-- The aggregate of integers. -/
def ofInts (ns : List Int) : Aggregation → Int
  | .minimum => (joined? min ns).getD 0
  | .maximum => (joined? max ns).getD 0
  | .count => ns.length
  | _ => ns.sum

theorem apply_ints {a : Aggregation} (ha : a.RollsUp) (ns : List Int) :
    a.apply (ns.map .int) = .ok (.int (a.ofInts ns)) := by
  cases a with
  | sum => exact Number.sum_int ns
  | count => simp [apply, ofInts]
  | minimum =>
    cases ns with
    | nil => rfl
    | cons n ns => simp only [apply, List.map_cons, Number.least_int, ofInts, joined?_cons]; rfl
  | maximum =>
    cases ns with
    | nil => rfl
    | cons n ns => simp only [apply, List.map_cons, Number.greatest_int, ofInts, joined?_cons]; rfl
  | average => exact ha.elim
  | distinctCount => exact ha.elim

theorem ofInts_perm (a : Aggregation) {ns ms : List Int} (h : ns.Perm ms) :
    a.ofInts ns = a.ofInts ms := by
  cases a with
  | minimum => exact congrArg (Option.getD · 0) (joined?_perm min h)
  | maximum => exact congrArg (Option.getD · 0) (joined?_perm max h)
  | count => exact congrArg Nat.cast h.length_eq
  | sum => exact h.sum_eq
  | average => exact h.sum_eq
  | distinctCount => exact h.sum_eq

/-- **Aggregates of integers do not depend on their order.** -/
theorem apply_perm (a : Aggregation) {ns ms : List Int} (h : ns.Perm ms) :
    a.apply (ns.map .int) = a.apply (ms.map .int) := by
  by_cases ha : a.RollsUp
  · rw [apply_ints ha, apply_ints ha, a.ofInts_perm h]
  · cases a with
    | sum | minimum | maximum | count => exact absurd trivial ha
    | average =>
      have hempty : (ns.map Number.int).isEmpty = (ms.map Number.int).isEmpty := by
        rw [Bool.eq_iff_iff, List.isEmpty_iff_length_eq_zero, List.isEmpty_iff_length_eq_zero,
          List.length_map, List.length_map, h.length_eq]
      rw [apply, apply, hempty, Number.sum_int, Number.sum_int, List.length_map, List.length_map,
        h.sum_eq, h.length_eq]
    | distinctCount =>
      rw [apply, apply, Number.distinct_int, Number.distinct_int, List.length_map,
        List.length_map, (firsts_perm h).length_eq]

/-- **The aggregate of a whole is one of the aggregates of its parts.** -/
theorem ofInts_flatten {a : Aggregation} (ha : a.RollsUp) {parts : List (List Int)}
    (hparts : ∀ part ∈ parts, part ≠ []) :
    a.rollUp.ofInts (parts.map a.ofInts) = a.ofInts parts.flatten := by
  cases a with
  | minimum => exact congrArg (Option.getD · 0) (joined?_flatten min hparts)
  | maximum => exact congrArg (Option.getD · 0) (joined?_flatten max hparts)
  | count =>
    clear hparts
    induction parts with
    | nil => rfl
    | cons part parts ih =>
      simp only [rollUp, ofInts] at ih
      simp only [rollUp, ofInts, List.map_cons, List.sum_cons, ih, List.flatten_cons,
        List.length_append, Int.natCast_add]
  | sum => exact List.sum_flatten.symm
  | average => exact ha.elim
  | distinctCount => exact ha.elim

end Aggregation

end Reporting
