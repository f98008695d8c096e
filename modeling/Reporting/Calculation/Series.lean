import Reporting.Double.Sum
import Reporting.Value.Projection

/-!
# Series

A field of consecutive rows, as doubles. Row order is the time axis: `changes` compares each value
with the one before, `runningTotals` adds up from the start, `rollingTotals` adds up the last few
values, and `ranks` orders the values from the greatest down.
-/

namespace Reporting.Series

/-- The doubles of a field. -/
def ofField (field : String) (rows : List Row) : Outcome (List Double) :=
  rows.mapM fun row => do (← (row.cell field).toNumber).toDouble

/-! ## Changes and running totals -/

/-- The differences of neighbours, after a first value. -/
def changesFrom (previous : Double) : List Double → List Double
  | [] => []
  | x :: rest => x.sub previous :: changesFrom x rest

/-- The change from the value before; the first value has none and shows zero. -/
def changes : List Double → List Double
  | [] => []
  | x :: rest => .zero false :: changesFrom x rest

/-- The running totals of values after a total. -/
def totalsFrom (total : Double) : List Double → List Double
  | [] => []
  | x :: rest => total.add x :: totalsFrom (total.add x) rest

/-- The total of each value and all before it. -/
def runningTotals : List Double → List Double
  | [] => []
  | x :: rest => x :: totalsFrom x rest

/-! ## Rolling totals -/

/-- The total of a window that moves along a series. Values enter and leave it with a
compensation of their own, and a run of equal values is counted, whose total is a product. -/
structure Window where
  total : Double
  entering : Double
  leaving : Double
  same : Nat
  last : Double

namespace Window

/-- The empty window before a value. -/
def before (x : Double) : Window := ⟨.zero false, .zero false, .zero false, 0, x⟩

/-- The window with a value more. -/
def enter (w : Window) (x : Double) : Window :=
  let term := x.sub w.entering
  let total := w.total.add term
  { total
    entering := (total.sub w.total).sub term
    leaving := w.leaving
    same := if Double.compare? x w.last = some .eq then w.same + 1 else 1
    last := x }

/-- The window with a value less. -/
def leave (w : Window) (x : Double) : Window :=
  let term := x.neg.sub w.leaving
  let total := w.total.add term
  { w with total, leaving := (total.sub w.total).sub term }

/-- The total of a window of so many values. -/
def read (w : Window) (count : Nat) : Double :=
  if count ≤ w.same then w.last.mul (Double.ofNat count) else w.total

end Window

/-- The window as it reaches the value `x` at a position: the first value and any value of a window
of one start afresh, and a full window loses its oldest value. -/
def advance (size position : Nat) (w : Window) (x oldest : Double) : Window :=
  let ready :=
    if position = 0 ∨ size = 1 then .before x
    else if size ≤ position then w.leave oldest
    else w
  ready.enter x

/-- The rolling totals from a position on. `departing` are the values that have not left the
window, oldest first. -/
def rollingFrom (size position : Nat) (w : Window) (departing : List Double) :
    List Double → List Double
  | [] => []
  | x :: rest =>
    let next := advance size position w x (departing.headD (.zero false))
    next.read (min (position + 1) size)
      :: rollingFrom size (position + 1) next
        (if size ≤ position then departing.tail else departing) rest

/-- The total of each value and those before it, up to `size` values in all. -/
def rollingTotals (size : Nat) (xs : List Double) : List Double :=
  rollingFrom size 0 (.before (.zero false)) xs xs

/-! ## Ranks -/

/-- The number of values that satisfy a condition. -/
def countWhere (holds : Double → Bool) (xs : List Double) : Nat := (xs.filter holds).length

/-- The rank of a value with the given values before and after it: one more than the number of
greater values and of equal values before. -/
def rankOf (earlier later : List Double) (x : Double) : Nat :=
  countWhere (fun y => Double.compare? x y = some .lt) (earlier ++ later)
    + countWhere (fun y => Double.compare? x y = some .eq) earlier + 1

/-- The ranks of the values after `earlier`. -/
def ranksFrom (earlier : List Double) : List Double → List Nat
  | [] => []
  | x :: rest => rankOf earlier rest x :: ranksFrom (earlier ++ [x]) rest

/-- The place of each value among all, the greatest first and equal values in their order. -/
def ranks (xs : List Double) : List Nat := ranksFrom [] xs

end Reporting.Series
