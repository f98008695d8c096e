import Reporting.Calculation
import Reporting.Wire.Reader

/-!
# Calculations on the wire

The type of a calculation is a field of its object. The other fields may also stand in an inner
object named `config`, whose entries count where the outer object has none of the very same name;
the type that selects the kind is the outer one.
-/

namespace Reporting

/-- The type of a calculation that shows the change of a period. -/
def Period.name : Period → String
  | .month => "MOM"
  | .quarter => "QOQ"
  | .year => "YOY"
  | .fiscalYear => "FOF"

/-- The periods. -/
def Period.all : List Period := [.month, .quarter, .year, .fiscalYear]

/-- The name of the type of a rule. -/
def Calculation.Rule.typeName : Calculation.Rule → String
  | .arithmetic _ => "ARITHMETIC"
  | .variance percentage _ _ => if percentage then "VARIANCE_PCT" else "VARIANCE"
  | .change period _ => period.name
  | .rolling _ _ => "ROLLING"
  | .yearToDate _ => "YTD"
  | .choice _ _ _ => "IF_CASE"
  | .rank _ => "RANK"
  | .unsupported type => type

namespace Wire

/-- The kinds of calculations, by the type that an object names. -/
inductive CalculationKind
  | arithmetic
  | variance (percentage : Bool)
  | change (period : Period)
  | rolling
  | yearToDate
  | choice
  | rank
  | unsupported
  deriving DecidableEq, Repr

/-- The kind of calculations with a type. -/
def CalculationKind.ofName (name : String) : CalculationKind :=
  match name with
  | "ARITHMETIC" => .arithmetic
  | "VARIANCE" => .variance false
  | "VARIANCE_PCT" => .variance true
  | "MOM" => .change .month
  | "QOQ" => .change .quarter
  | "YOY" => .change .year
  | "FOF" => .change .fiscalYear
  | "ROLLING" => .rolling
  | "YTD" => .yearToDate
  | "IF_CASE" => .choice
  | "RANK" => .rank
  | _ => .unsupported

/-- The kind that an object selects. -/
def calculationKind (fields : Entries) : CalculationKind :=
  match Keyed.find? "type" fields with
  | some (.text name) => .ofName name
  | _ => .unsupported

/-- The entries of an object with those of its inner one behind them. The first entry of a name is
the one that counts. -/
def lifted (fields : Entries) : Entries :=
  match Keyed.find? "config" fields with
  | some (.object inner) => fields.filter (·.1 ≠ "config") ++ inner
  | _ => fields

/-- The field that a calculation is about. -/
def baseField (fields : Entries) : Option String :=
  optional ["baseField", "base_field"] text "" fields

/-- The condition of a choice. -/
def condition (fields : Entries) : Option Filter := do
  return {
    field := ← optional ["field"] text "" fields
    operator := ← optional ["operator"] text Filter.defaultOperator fields
    value := ← optional ["compareValue", "compare_value"] anything .null fields }

/-- The rule of a kind. -/
def rule (fields : Entries) : CalculationKind → Option Calculation.Rule
  | .arithmetic => do return .arithmetic (← optional ["expression"] text "" fields)
  | .variance percentage => do
    return .variance percentage
      (← optional ["minuendField", "minuend_field"] text "" fields)
      (← optional ["subtrahendField", "subtrahend_field"] text "" fields)
  | .change period => do return .change period (← baseField fields)
  | .rolling => do
    return .rolling (← baseField fields) (← optional ["window"] anything (.int 3) fields)
  | .yearToDate => do return .yearToDate (← baseField fields)
  | .choice => do
    return .choice (← condition fields)
      (← optional ["trueValue", "true_value"] anything .null fields)
      (← optional ["falseValue", "false_value"] anything .null fields)
  | .rank => do return .rank (← optional ["field"] text "" fields)
  | .unsupported => do return .unsupported (← required ["type"] text fields)

/-- What a calculation tells whatever its kind. -/
structure Heading where
  id : String
  name : String
  output : String
  deriving DecidableEq, Repr

/-- A heading. The output has to be there unless it has a default. -/
def headingOf (output : Option String) (fields : Entries) : Option Heading := do
  let names := ["outputField", "output_field"]
  return {
    id := ← optional ["id"] text "" fields
    name := ← optional ["name"] text "" fields
    output := ←
      match output with
      | some default => optional names text default fields
      | none => required names text fields }

/-- The heading of a calculation of any kind but an unsupported one. -/
def heading : Reader Heading := fun value => do headingOf none (lifted (← entries value))

/-- The output of a calculation that names none, which only an unsupported one may do. -/
def CalculationKind.defaultOutput : CalculationKind → Option String
  | .unsupported => some ""
  | _ => none

/-- A calculation of a kind. -/
def calculationOf (kind : CalculationKind) (fields : Entries) : Option Calculation := do
  let heading ← headingOf kind.defaultOutput fields
  return {
    id := heading.id
    name := heading.name
    output := heading.output
    rule := ← rule fields kind }

/-- A calculation of the kind that its object selects. -/
def calculation : Reader Calculation := fun value => do
  let object ← entries value
  calculationOf (calculationKind object) (lifted object)

/-- A calculation of one of some kinds, whose type may also stand in the inner object: without a
type it is of the first kind. An unsupported one may name any type. -/
def calculationAmong (kinds : List CalculationKind) : Reader Calculation := fun value => do
  let fields := lifted (← entries value)
  let kind ←
    match lookup ["type"] fields with
    | none => kinds.head?
    | some (.text name) => kinds.find? fun kind => kind = .ofName name ∨ kind = .unsupported
    | some _ => none
  calculationOf kind fields

/-! ## Writing -/

/-- The entries of a rule's own fields. -/
def ofRule : Calculation.Rule → Entries
  | .arithmetic expression => [("expression", .text expression)]
  | .variance _ minuend subtrahend =>
    [("minuendField", .text minuend), ("subtrahendField", .text subtrahend)]
  | .change _ field => [("baseField", .text field)]
  | .rolling field window => [("baseField", .text field), ("window", window)]
  | .yearToDate field => [("baseField", .text field)]
  | .choice condition yes no =>
    [("field", .text condition.field), ("operator", .text condition.operator),
      ("compareValue", condition.value), ("trueValue", yes), ("falseValue", no)]
  | .rank field => [("field", .text field)]
  | .unsupported _ => []

/-- The entries of a heading. -/
def ofHeading (h : Heading) : Entries :=
  [("id", .text h.id), ("name", .text h.name), ("outputField", .text h.output)]

/-- The object of a calculation. -/
def ofCalculation (c : Calculation) : Value :=
  .object (ofHeading ⟨c.id, c.name, c.output⟩ ++ ("type", .text c.rule.typeName) :: ofRule c.rule)

end Wire

end Reporting
