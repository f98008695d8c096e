import Reporting.Numeral
import Reporting.Text.Blank
import Reporting.Text.Digit

/-!
# Cells of an upload

How a single cell of an uploaded table reads as a number or a truth value. An integer is read
within a range first; only cells that leave the range of 64 bits are read without bounds.
-/

namespace Reporting.Upload

/-- The cells that stand for nothing. -/
def missingWords : List String :=
  ["", "#N/A", "#N/A N/A", "#NA", "-1.#IND", "-1.#QNAN", "-NaN", "-nan", "1.#IND", "1.#QNAN",
    "<NA>", "N/A", "NA", "NULL", "NaN", "None", "n/a", "nan", "null"]

/-- The content of a cell, if there is any. -/
def present? (cell : String) : Option String :=
  if missingWords.contains cell then none else some cell

/-! ## Integers -/

/-- What a cell is as an integer of a range. -/
inductive IntegerReading
  | value (n : Int)
  | invalid
  /-- An integer out of the range. -/
  | overflow
  deriving DecidableEq, Repr

/-- Reads a cell as an integer from `low` to `high`. -/
def readInteger (low high : Int) (cell : String) : IntegerReading :=
  let (sign, digits) := Numeral.scanSign (Text.trimPlain cell.toList)
  let size : Int := Text.digitsValue digits
  let n := if sign = some '-' then -size else size
  if digits.isEmpty ∨ ¬ digits.all Text.isPlainDigit then .invalid
  else if low ≤ n ∧ n ≤ high then .value n
  else .overflow

/-- Reads a cell as an integer of any size. Its digits may be grouped by underscores. -/
def readUnbounded (cell : String) : Option Int :=
  Text.integer? Text.isPlainDigit (Text.trimPlain cell.toList)

/-- Whether a cell starts with a minus sign. -/
def isNegative (cell : String) : Bool :=
  (Numeral.scanSign (cell.toList.dropWhile Text.isPlainBlank)).1 = some '-'

/-! ## Doubles -/

/-- The double that a numeral in plain characters spells. -/
def numeral? (cs : List Char) : Option Double :=
  match Numeral.scan? cs with
  | some (numeral, []) => if cs.all (·.toNat < 128) then some numeral.toDouble else none
  | _ => none

/-- The infinity that a word names, in any case. -/
def infinity? (cs : List Char) : Option Double :=
  let (sign, word) := Numeral.scanSign (cs.map Char.toLower)
  if word = ['i', 'n', 'f'] ∨ word = ['i', 'n', 'f', 'i', 'n', 'i', 't', 'y'] then
    some (.infinite (sign = some '-'))
  else none

/-- Reads a cell as a double. Spaces may stand around a numeral, but not around infinity. -/
def readDouble (cell : String) : Option Double :=
  (numeral? (Text.trimPlain cell.toList)).or (infinity? cell.toList)

/-! ## Truth values -/

/-- Reads a cell as a truth value, in any case. -/
def readFlag (cell : String) : Option Bool :=
  match cell.map Char.toLower with
  | "true" => some true
  | "false" => some false
  | _ => none

end Reporting.Upload
