import Reporting.Value.Projection

/-!
# Filters

A filter is a condition on one field of a row. Equality goes by the comparable projection, the
searches by lower-case text, and the orderings by the numeric projection, so a filter says yes or
no of any row; only an integer too large for a double stops a numeric comparison, and one too long
to be written stops a search, or an equality if it stands in a list or an object. Unknown operators
and incomplete ranges let every row through.

Operands may be placeholders, which a run replaces with its parameters (`Filter.resolve`).
-/

namespace Reporting

/-- A condition on a field. The operator is kept by name. -/
structure Filter where
  field : String
  operator : String
  value : Value

/-- The known operators. -/
inductive Filter.Operator
  | equal
  | unequal
  | contains
  | oneOf
  | greater
  | atLeast
  | less
  | atMost
  | between
  deriving DecidableEq, Repr

namespace Filter

/-- The operator with a name. -/
def Operator.ofName? : String → Option Operator
  | "eq" => some .equal
  | "neq" => some .unequal
  | "contains" => some .contains
  | "in" => some .oneOf
  | "gt" => some .greater
  | "gte" => some .atLeast
  | "lt" => some .less
  | "lte" => some .atMost
  | "between" => some .between
  | _ => none

/-- The operator of a filter that names none. -/
def defaultOperator : String := "eq"

/-! ## Evaluation -/

/-- Compares the numeric projections of two values. -/
def compareNumbers (holds : Number → Number → Bool) (a b : Value) : Outcome Bool := do
  let m ← a.toNumber
  return holds m (← b.toNumber)

/-- Whether a value lies between two bounds, ends included. The upper bound is read only if the
lower one holds. -/
def isBetween (value low high : Value) : Outcome Bool := do
  let n ← value.toNumber
  if (← low.toNumber).lessEq n then
    return n.lessEq (← high.toNumber)
  else return false

/-- Whether two values compare as equal. -/
def isEqual (cell operand : Value) : Outcome Bool := do
  let seen ← cell.toComparable
  return seen.equals (← operand.toComparable)

/-- Whether the text of a cell holds that of an operand, in any case. -/
def containsText (cell operand : Value) : Outcome Bool := do
  let sought ← operand.lowerText
  return Text.occursIn sought (← cell.lowerText)

/-- Whether the text of a cell is among the items of an operand, in any case. -/
def isOneOf (cell operand : Value) : Outcome Bool := do
  let items ← operand.toItems
  return (items.map fun item => Text.lowerChars item.toList).contains (← cell.lowerText)

/-- Whether a cell satisfies an operator with an operand. -/
def Operator.holds (cell operand : Value) : Operator → Outcome Bool
  | .equal => isEqual cell operand
  | .unequal => do return !(← isEqual cell operand)
  | .contains => containsText cell operand
  | .oneOf => isOneOf cell operand
  | .greater => compareNumbers (fun m n => n.less m) cell operand
  | .atLeast => compareNumbers (fun m n => n.lessEq m) cell operand
  | .less => compareNumbers Number.less cell operand
  | .atMost => compareNumbers Number.lessEq cell operand
  | .between =>
    match operand with
    | .list (low :: high :: _) => isBetween cell low high
    | _ => .ok true

/-- Whether a row satisfies a filter. -/
def accepts (f : Filter) (row : Row) : Outcome Bool :=
  match Operator.ofName? f.operator with
  | some operator => operator.holds (row.cell f.field) f.value
  | none => .ok true

/-- Whether a row satisfies every filter; the first that it fails ends the matter. -/
def acceptsAll (filters : List Filter) (row : Row) : Outcome Bool :=
  match filters with
  | [] => .ok true
  | f :: rest => do
    if ← f.accepts row then acceptsAll rest row else return false

/-- The rows that satisfy every filter, in order. -/
def keep (filters : List Filter) : List Row → Outcome (List Row)
  | [] => .ok []
  | row :: rest => do
    if ← acceptsAll filters row then
      return row :: (← keep filters rest)
    else keep filters rest

/-! ## Placeholders -/

/-- The parameter that a text stands for: the trimmed name between two pairs of braces. -/
def placeholder? (s : String) : Option String :=
  match Text.trimChars s.toList with
  | '{' :: '{' :: rest =>
    match rest.reverse with
    | '}' :: '}' :: name => some (String.ofList (Text.trimChars name.reverse))
    | _ => none
  | _ => none

/-- A value with its placeholder, if it is one, replaced by the parameter; an unbound placeholder
becomes the empty text. -/
def resolveValue (parameters : Keyed String) : Value → Value
  | .text s =>
    match placeholder? s with
    | some name => .text ((parameters.get? name).getD "")
    | none => .text s
  | value => value

/-- A filter with its operand resolved. -/
def resolve (parameters : Keyed String) (f : Filter) : Filter :=
  { f with value := resolveValue parameters f.value }

end Filter

end Reporting
