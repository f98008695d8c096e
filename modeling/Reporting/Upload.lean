import Reporting.Csv
import Reporting.Dataset.Sheet
import Reporting.Upload.Cell

/-!
# Uploads

An uploaded CSV text becomes a sheet. Its first record is the header; short records are filled up
with missing cells. Each column takes the first kind that all its present cells have: integers of
64 bits with or without a sign, doubles, truth values, and else text. Doubles without fractions
become integers in the end. Integers that do not go together in 64 bits are kept exactly, one by
one, or as text.
-/

namespace Reporting.Upload

/-! ## Columns -/

/-- A column of doubles, or of integers if none of them has a fraction or leaves 64 bits. -/
def narrow (cells : List (Option Double)) : Column :=
  let whole (x : Double) : Option Int := x.toInt?.filter fun n => -2 ^ 63 ≤ n ∧ n < 2 ^ 63
  if cells.all fun cell => cell.all fun x => (whole x).isSome then
    .integers (cells.map fun cell => cell.bind whole)
  else .doubles cells

/-- The first reading of cells that is no value, if there is one. -/
def firstObstacle? (read : String → IntegerReading) (cells : List (Option String)) :
    Option IntegerReading :=
  cells.findSome? fun cell =>
    match cell.map read with
    | some .invalid => some .invalid
    | some .overflow => some .overflow
    | _ => none

/-- The integers that cells are read as; a cell that is missing or no integer is none. -/
def integerCells (read : String → IntegerReading) (cells : List (Option String)) :
    List (Option Int) :=
  cells.map fun cell =>
    match cell.map read with
    | some (.value n) => some n
    | _ => none

/-- The cells read by a reader, if it reads all that are present. -/
def readAll? {α : Type} (read : String → Option α) (cells : List (Option String)) :
    Option (List (Option α)) :=
  cells.mapM fun cell =>
    match cell with
    | none => some none
    | some s => (read s).map some

/-- A column of doubles, truth values or text. -/
def withoutIntegers (cells : List (Option String)) : Column :=
  match readAll? readDouble cells with
  | some doubles => narrow doubles
  | none =>
    match readAll? readFlag cells with
    | some flags => .flags flags
    | none => .texts cells

/-- A column of text in which also the cells that stand for nothing are kept as written. -/
def asWritten (cells : List String) : Column := .texts (cells.map some)

/-- A column of integers of any size, or of text as written if a cell is none. -/
def unboundedIntegers (cells : List String) : Column :=
  match readAll? readUnbounded (cells.map present?) with
  | some integers => .mixed (integers.map fun cell => cell.elim .null Value.int)
  | none => asWritten cells

/-- The greatest integer of 64 bits with a sign. -/
def maxSigned : Int := 2 ^ 63 - 1

/-- Reads a cell as an integer of 64 bits with a sign. -/
def readSigned : String → IntegerReading := readInteger (-2 ^ 63) maxSigned

/-- Reads a cell as an integer of 64 bits without a sign; a negative one counts as zero here. -/
def readUnsigned (cell : String) : IntegerReading :=
  if isNegative cell then .value 0 else readInteger 0 (2 ^ 64 - 1) cell

/-- A column whose first cell that is no signed integer of 64 bits is an integer out of that range.
Integers past the signed range go neither with negative ones nor with missing cells. -/
def largeIntegers (cells : List String) : Column :=
  let content := cells.map present?
  let integers := integerCells readUnsigned content
  match firstObstacle? readUnsigned content with
  | some .overflow => unboundedIntegers cells
  | some _ => withoutIntegers content
  | none =>
    let large := integers.any fun n => n.any (maxSigned < ·)
    let negative := content.any fun cell => cell.any isNegative
    if large && (negative || content.contains none) then asWritten cells
    else if negative then unboundedIntegers cells
    else .integers integers

/-- A column of integers of 64 bits some of which are missing. They pass through doubles. -/
def sparseIntegers (cells : List (Option Int)) : Column :=
  narrow (cells.map fun cell => cell.bind Double.ofInt?)

/-- The column of cells. -/
def column (cells : List String) : Column :=
  let content := cells.map present?
  if cells.isEmpty then .texts []
  else
    match firstObstacle? readSigned content with
    | some .overflow => largeIntegers cells
    | some _ => withoutIntegers content
    | none =>
      let integers := integerCells readSigned content
      if integers.contains none then sparseIntegers integers else .integers integers

/-! ## Headers -/

/-- A name with a number behind it, the first from `number` on that is not among the names taken.
One of as many tries as there are names, and one more, succeeds. -/
def numbered (taken : List String) (name : String) (number : Nat) : Nat → String × Nat
  | 0 => (name ++ "." ++ toString number, number)
  | tries + 1 =>
    if taken.contains (name ++ "." ++ toString number) then
      numbered taken name (number + 1) tries
    else (name ++ "." ++ toString number, number)

/-- Headers on their way to distinct names, and how often each name has come. -/
structure Naming where
  headers : List String
  counts : Keyed Nat

/-- Gives the header at a position a name of its own. -/
def Naming.settle (naming : Naming) (position : Nat) : Naming :=
  let name := naming.headers.getD position ""
  match (naming.counts.get? name).getD 0 with
  | 0 => { naming with counts := naming.counts.put name 1 }
  | count + 1 =>
    let (fresh, number) :=
      numbered naming.headers name (count + 1) (naming.headers.length + 1)
    { headers := naming.headers.set position fresh
      counts := (naming.counts.put name (number + 1)).put fresh 1 }

/-- The names of columns. A header without a name is named for its position, and names that repeat
are numbered; headers with a name of their own are settled first. -/
def columnNames (headers : List String) : List String :=
  let filled := headers.mapIdx fun i name => if name = "" then "Unnamed: " ++ toString i else name
  let positions := List.range headers.length
  let named := positions.filter fun i => headers.getD i "" ≠ ""
  let unnamed := positions.filter fun i => headers.getD i "" = ""
  ((named ++ unnamed).foldl Naming.settle ⟨filled, .empty⟩).headers

/-! ## Sheets -/

/-- The columns of records, as many as there are names. -/
def columnsOf (records : List (List String)) : List String → List (String × Column)
  | [] => []
  | name :: names =>
    (name, column (records.map fun record => record.headD ""))
      :: columnsOf (records.map List.tail) names

/-- The sheet of records under a header. If the first record is longer than the header, its first
cells belong to no column, as do those of the others; no later record may be longer. -/
def sheet? (headers : List String) (records : List (List String)) : Option Sheet :=
  let width := max headers.length (records.headD []).length
  if records.any fun record => width < record.length then none
  else
    some ⟨columnsOf
      (records.map fun record => record.drop (width - headers.length))
      ((columnNames headers).map Text.trim)⟩

/-- The sheet of a CSV text; none if it cannot be read. -/
def parse? (csv : String) : Option Sheet :=
  match Csv.records? csv with
  | some (headers :: records) => sheet? headers records
  | _ => none

end Reporting.Upload
