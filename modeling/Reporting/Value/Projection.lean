import Reporting.Numeral
import Reporting.Text.Digit
import Reporting.Text.LowerCase
import Reporting.Text.Split
import Reporting.Value

/-!
# Projections of values

All parts of a run read cells through the same few projections: as a number (`toNumber`), as a text
(`toText`), as something to compare (`toComparable`), as a cell of a result (`normalize`) and as a
list of texts (`toItems`). What can be written has the projections `plainText`, `plainComparable`
and `normalized`, which do not fail.
-/

namespace Reporting.Value

/-- Truth values are not numbers. -/
def isNumber : Value → Bool
  | .number _ => true
  | _ => false

/-! ## Numbers -/

/-- The number that a text starts with, commas and leading blanks aside, as a double; zero if there
is none or if it is too large. -/
def textToNumber (s : String) : Number :=
  match Numeral.scan? (Text.trimLeft (s.toList.filter (· ≠ ','))) with
  | some (numeral, _) =>
    if numeral.toDouble.isFinite then .double numeral.toDouble else .int 0
  | none => .int 0

/-- A finite number stays itself, a text counts as the number it starts with, and all else is
zero. An integer too large for a double is a failure. -/
def toNumber : Value → Outcome Number
  | .number (.int n) => do
    let _ ← Number.intToDouble n
    return .int n
  | .number (.double x) => .ok (if x.isFinite then .double x else .int 0)
  | .text s => .ok (textToNumber s)
  | _ => .ok (.int 0)

/-- Doubles without a fraction become integers; any other value stays. -/
def integral : Value → Value
  | .number n => .number n.integral
  | value => value

/-! ## Texts -/

/-- A cell as text: nothing for null, and a double without a fraction as the integer it equals. -/
def plainText : Value → String
  | .null => ""
  | .bool b => if b then "true" else "false"
  | .number n => String.ofList (numberChars n.integral)
  | value => value.fullText

/-- The text of a cell in keys, searches and exports. What has too many digits has none. -/
def toText (value : Value) : Outcome String :=
  if value.IsWritable then .ok value.plainText else .error .tooManyDigits

theorem toText_bind {α : Type} (value : Value) (f : String → α) :
    (do return f (← value.toText) : Outcome α) =
      if value.IsWritable then .ok (f value.plainText) else .error .tooManyDigits := by
  rw [toText]
  split <;> rfl

/-- The text of a cell in lower case, as its characters. -/
def lowerText (value : Value) : Outcome (List Char) := do
  return Text.lowerChars (← value.toText).toList

/-- The cell of a result: lists and objects are written as text. -/
def normalize : Value → Outcome Value
  | .list items => do return .text (← (Value.list items).printed)
  | .object fields => do return .text (← (Value.object fields).printed)
  | value => .ok value

/-- The cell of a result, as long as it can be written. -/
def normalized : Value → Value
  | .list items => .text (Value.list items).fullText
  | .object fields => .text (Value.object fields).fullText
  | value => value

/-- Whether a value can be a cell of a result: lists and objects have to be written. -/
def HasScalar : Value → Prop
  | .list items => (Value.list items).IsWritable
  | .object fields => (Value.object fields).IsWritable
  | _ => True

instance : (value : Value) → Decidable value.HasScalar
  | .null | .bool _ | .number _ | .text _ => isTrue trivial
  | .list items => inferInstanceAs (Decidable (Value.list items).IsWritable)
  | .object fields => inferInstanceAs (Decidable (Value.object fields).IsWritable)

theorem normalize_eq (value : Value) :
    value.normalize = if value.HasScalar then .ok value.normalized else .error .tooManyDigits := by
  match value with
  | .null | .bool _ | .number _ | .text _ => rfl
  | .list items => exact printed_bind (.list items) Value.text
  | .object fields => exact printed_bind (.object fields) Value.text

/-- The items of a list operand: those of a list as texts, or those of a text between its
commas. -/
def toItems : Value → Outcome (List String)
  | .list items => items.mapM toText
  | .text s => .ok (Text.commaItems s)
  | _ => .ok []

/-! ## Comparison -/

/-- What comparisons see of a value: a number or a lower-case text. -/
inductive Comparable
  | number (n : Number)
  | text (s : String)

/-- Truth values compare as one and zero, and everything that is not a number as its text in lower
case. -/
def toComparable : Value → Outcome Comparable
  | .bool b => .ok (.number (.int (if b then 1 else 0)))
  | .number n => .ok (.number n)
  | value => do return .text (Text.lower (← value.toText))

/-- What comparisons see of a value, as long as it can be written. -/
def plainComparable : Value → Comparable
  | .bool b => .number (.int (if b then 1 else 0))
  | .number n => .number n
  | value => .text (Text.lower value.plainText)

theorem toComparable_eq (value : Value) :
    value.toComparable =
      if value.HasScalar then .ok value.plainComparable else .error .tooManyDigits := by
  match value with
  | .null | .bool _ | .number _ | .text _ => rfl
  | .list items => exact toText_bind (.list items) fun s => Comparable.text (Text.lower s)
  | .object fields => exact toText_bind (.object fields) fun s => Comparable.text (Text.lower s)

/-- A number never equals a text. -/
def Comparable.equals : Comparable → Comparable → Bool
  | .number a, .number b => a.equals b
  | .text s, .text t => s = t
  | _, _ => false

/-- The text that stands for a comparable value in a collation. -/
def Comparable.toText : Comparable → Outcome String
  | .number n => Value.toText (.number n)
  | .text s => .ok s

end Reporting.Value
