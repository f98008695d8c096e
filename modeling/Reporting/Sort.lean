import Reporting.Value.Projection

/-!
# Sort rules

Rows are sorted by their comparable projections, by the first rule and then by later ones among
rows that tie. Numbers compare as numbers; if a text takes part, the lower-case texts compare by
code point. The sort is stable. A null character has no collation, so a text with one stops the
sort wherever it has to be told apart from another value, as does what has too many digits to be
written.
-/

namespace Reporting

/-- The direction of a sort. -/
inductive Direction
  | ascending
  | descending
  deriving DecidableEq, Repr

/-- An order seen in a direction. -/
def Direction.apply : Direction → Ordering → Ordering
  | .ascending, order => order
  | .descending, order => order.swap

/-- One criterion of a sort. -/
structure SortRule where
  field : String
  direction : Direction
  deriving DecidableEq, Repr

namespace SortRule

open Value (Comparable)

/-- The order of two texts by code point. -/
def collate (s t : String) : Outcome Ordering :=
  if s.contains (Char.ofNat 0) || t.contains (Char.ofNat 0) then .error .collation
  else .ok (if s = t then .eq else if s < t then .lt else .gt)

/-- The order of two comparable values. -/
def compareValues (a b : Comparable) : Outcome Ordering :=
  if a.equals b then .ok .eq
  else
    match a, b with
    | .number m, .number n => .ok (if m.less n then .lt else .gt)
    | _, _ => do
      let s ← a.toText
      collate s (← b.toText)

/-- What a row is sorted by: one value for each rule, if it can be compared. -/
abbrev Key := List (Outcome Comparable)

/-- The order of two keys, the first values that differ deciding, each in its direction. Values
behind those are not looked at. -/
def compareKeys : List Direction → Key → Key → Outcome Ordering
  | direction :: directions, a :: as, b :: bs => do
    let left ← a
    match ← compareValues left (← b) with
    | .eq => compareKeys directions as bs
    | order => return direction.apply order
  | _, _, _ => .ok .eq

/-- The key of a row. -/
def key (rules : List SortRule) (row : Row) : Key :=
  rules.map fun rule => (row.cell rule.field).toComparable

/-- The order of two rows under rules. -/
def compareRows (rules : List SortRule) (a b : Row) : Outcome Ordering :=
  compareKeys (rules.map (·.direction)) (key rules a) (key rules b)

/-- Whether an outcome is not that the first comes after the second. -/
def notAfter : Outcome Ordering → Bool
  | .ok .gt => false
  | _ => true

/-- The failure of an outcome, if it is one. -/
def failure? : Outcome Ordering → Option Failure
  | .ok _ => none
  | .error failure => some failure

/-- The first failure to compare a pair of keys. -/
def firstFailure? (directions : List Direction) : List Key → Option Failure
  | [] => none
  | a :: rest =>
    match rest.findSome? fun b => failure? (compareKeys directions a b) with
    | some failure => some failure
    | none => firstFailure? directions rest

/-- The rows in the order of the rules, ties in input order. Which rows a sort compares is left to
its algorithm, so any two rows that cannot be compared stop it, also if others would stand between
them. -/
def sortRows (rules : List SortRule) (rows : List Row) : Outcome (List Row) :=
  let directions := rules.map (·.direction)
  let keyed := rows.map fun row => (key rules row, row)
  match firstFailure? directions (keyed.map Prod.fst) with
  | some failure => .error failure
  | none =>
    .ok ((keyed.mergeSort fun a b => notAfter (compareKeys directions a.1 b.1)).map Prod.snd)

end SortRule

end Reporting
