import Reporting.Text.Split
import Reporting.Value.Projection

/-!
# Arithmetic expressions

An expression is a list of words: operators, which stand alone, and operands. It is reduced
strictly from left to right, so `a + b * 2` is `(a + b) * 2`. An operand is a name of the context
or else a numeral; a zero divisor leaves the total as it is.
-/

namespace Reporting.Expression

/-- The operators of an expression. -/
inductive Operator
  | plus
  | minus
  | times
  | over
  deriving DecidableEq, Repr

/-- The operator that a word is. -/
def Operator.ofWord? : List Char → Option Operator
  | ['+'] => some .plus
  | ['-'] => some .minus
  | ['*'] => some .times
  | ['/'] => some .over
  | _ => none

/-- The total combined with an operand. -/
def Operator.combine (total operand : Number) : Operator → Outcome Number
  | .plus => total.add operand
  | .minus => total.sub operand
  | .times => total.mul operand
  | .over =>
    if operand.isZero then .ok total else do return .double (← total.div operand)

/-- The words of an expression. -/
def words (expression : String) : List String :=
  (Text.words expression.toList).map String.ofList

/-- What an operand stands for: its entry in the context, or else the numeral it starts with. -/
def operandValue (context : Keyed Number) (word : String) : Number :=
  (context.get? word).getD (Value.textToNumber word)

/-- A reduction on its way: the total and the last operator read. -/
structure Reduction where
  total : Number
  operator : Operator

/-- Reads one word. An operator replaces the last one; an operand is combined by it. -/
def Reduction.read (context : Keyed Number) (r : Reduction) (word : String) :
    Outcome Reduction :=
  match Operator.ofWord? word.toList with
  | some operator => .ok { r with operator }
  | none => do
    return { r with total := ← r.operator.combine r.total (operandValue context word) }

/-- Before the first word a zero is to be added to. -/
def Reduction.start : Reduction := ⟨.int 0, .plus⟩

/-- The value of an expression in a context. -/
def evaluate (context : Keyed Number) (expression : String) : Outcome Number := do
  return (← (words expression).foldlM (Reduction.read context) .start).total

end Reporting.Expression
