import Reporting.Value

/-!
# Merging rows

Rows of several datasets that share a key are folded into one: cells that are missing or empty are
filled, and numbers are added up. A row without a text as its key goes under a name made from its
dataset and its position; there is no such name if the dataset has too many digits to be written.
-/

namespace Reporting.Merge

/-- Whether a value counts as nothing where a name is asked for. -/
def isNothing : Value → Bool
  | .null => true
  | .bool b => !b
  | .number n => n.isZero
  | .text s => s = ""
  | .list items => items.isEmpty
  | .object fields => fields.isEmpty

/-- The name of the dataset of a row. -/
def datasetName (row : Row) : Outcome String :=
  let cell := row.cell "dataset_id"
  if isNothing cell then .ok "dataset" else cell.printed

/-- The key of a row, if it is a text with something in it. -/
def key? (key : String) (row : Row) : Option String :=
  match row.cell key with
  | .text s => if s = "" then none else some s
  | _ => none

/-- The name made for the row at a position. -/
def madeName (position : Nat) (row : Row) : Outcome String := do
  return (← datasetName row) ++ "-" ++ toString position

/-- The name under which the row at a position is folded. -/
def bucket (key : String) (position : Nat) (row : Row) : Outcome String :=
  match key? key row with
  | some name => .ok name
  | none => madeName position row

/-- A cell with another one folded into it. -/
def foldCell (current value : Value) : Outcome Value :=
  match current, value with
  | .null, _ => .ok value
  | .text s, _ => .ok (if s = "" then value else current)
  | .number m, .number n => do return .number (← m.add n)
  | _, _ => .ok current

/-- A row with the cells of another folded into it. -/
def foldRow (existing row : Row) : Outcome Row :=
  row.entries.foldlM
    (fun merged entry => do
      match merged.get? entry.1 with
      | none => return merged.put entry.1 entry.2
      | some current => return merged.put entry.1 (← foldCell current entry.2))
    existing

/-- Folds the rows from a position on into buckets. -/
def foldFrom (key : String) (position : Nat) (buckets : Keyed Row) : List Row → Outcome (Keyed Row)
  | [] => .ok buckets
  | row :: rest => do
    let name ← bucket key position row
    let merged ←
      match buckets.get? name with
      | none => .ok row
      | some existing => foldRow existing row
    foldFrom key (position + 1) (buckets.put name merged) rest

/-- The field that tells which rows belong together. -/
def defaultKey : String := "project_id"

/-- Rows with those that share a key folded into one, by the first appearance of their buckets. -/
def mergeRows (key : String) (rows : List Row) : Outcome (List Row) := do
  return (← foldFrom key 0 .empty rows).values

end Reporting.Merge
