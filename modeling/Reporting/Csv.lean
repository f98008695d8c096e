import Reporting.Value.Projection

/-!
# CSV text

Tables are written with every field in double quotes, quotes inside doubled, fields parted by
commas and records by line breaks. `records?` reads the usual dialect, of which the written form is
a part: fields may also stand without quotes, and blank lines are skipped.
-/

namespace Reporting.Csv

/-! ## Writing -/

/-- Characters with their quotes doubled. -/
def doubleQuotes (cs : List Char) : List Char :=
  cs.flatMap fun c => if c = '"' then ['"', '"'] else [c]

/-- A text as a quoted field. -/
def field (s : String) : List Char := '"' :: doubleQuotes s.toList ++ ['"']

/-- Cells as fields parted by commas. -/
def record (cells : List String) : List Char := Text.joined [','] (cells.map field)

/-- Records on lines of their own. Records without fields leave nothing to write. -/
def text (records : List (List String)) : List Char :=
  if (records.headD []).isEmpty then [] else Text.joined ['\n'] (records.map record)

/-- The text of a cell: truth values in capitals, and nothing for null. -/
def cellText : Value → Outcome String
  | .bool b => .ok (if b then "TRUE" else "FALSE")
  | value => value.toText

/-- The columns of rows are those of the first. -/
def columnsOf (rows : List Row) : List String :=
  match rows with
  | [] => []
  | first :: _ => first.keys

/-- A header and the rows under it. -/
def table (columns : List String) (rows : List Row) : Outcome (List (List String)) := do
  return columns :: (← rows.mapM fun row => columns.mapM fun column => cellText (row.cell column))

/-- The CSV text of rows. Without columns of their own they have those of the first row. -/
def ofRows (columns : List String) (rows : List Row) : Outcome String := do
  return String.ofList
    (text (← table (if columns.isEmpty then columnsOf rows else columns) rows))

/-! ## Reading -/

/-- Where the reader stands in a record. -/
inductive Position
  /-- At the start of a field. -/
  | start
  /-- In a field without quotes, or behind the closing quote of one with quotes. -/
  | plain
  /-- Inside quotes. -/
  | quoted
  /-- Behind a quote inside quotes, which closes them unless another follows. -/
  | closing
  deriving DecidableEq, Repr

/-- A reader on its way: where it stands, the characters of the field and the fields of the record
that it has read, and the finished records, each last first. -/
structure Reader where
  position : Position
  chars : List Char
  fields : List String
  records : List (List String)

namespace Reader

/-- A reader that has read nothing. -/
def start : Reader := ⟨.start, [], [], []⟩

/-- Ends the field. -/
def endField (r : Reader) : Reader :=
  { r with position := .start, chars := [], fields := String.ofList r.chars.reverse :: r.fields }

/-- Ends the record. -/
def endRecord (r : Reader) : Reader :=
  let ended := r.endField
  { ended with fields := [], records := ended.fields.reverse :: ended.records }

/-- Adds a character to the field. -/
def push (r : Reader) (c : Char) (position : Position) : Reader :=
  { r with position, chars := c :: r.chars }

/-- Reads one character. Line breaks outside quotes have been split off before. -/
def step (r : Reader) (c : Char) : Reader :=
  match r.position with
  | .start =>
    if c = '"' then { r with position := .quoted }
    else if c = ',' then r.endField
    else if c = '\n' then r.endRecord
    else r.push c .plain
  | .plain =>
    if c = ',' then r.endField
    else if c = '\n' then r.endRecord
    else r.push c .plain
  | .quoted => if c = '"' then { r with position := .closing } else r.push c .quoted
  | .closing =>
    if c = '"' then r.push c .quoted
    else if c = ',' then r.endField
    else if c = '\n' then r.endRecord
    else r.push c .plain

/-- Whether nothing has been read since the last record. -/
def isFresh (r : Reader) : Bool :=
  r.position = .start && r.fields.isEmpty

end Reader

/-- The blanks that a blank line may hold. -/
def isGap (c : Char) : Bool := c = ' ' || c = '\t'

theorem length_dropWhile_le (p : Char → Bool) (cs : List Char) :
    (cs.dropWhile p).length ≤ cs.length :=
  (List.dropWhile_sublist p).length_le

/-- Where the next record starts: behind the lines of blanks only. A carriage return alone ends such
a line too, together with a comma behind it; but if blanks then lead to a record after all, that
record starts at the mark, behind the last line feed. -/
def recordStart (mark cs : List Char) : List Char :=
  match _behind : cs.dropWhile isGap with
  | [] => []
  | '\n' :: rest => recordStart rest rest
  | '\r' :: '\n' :: rest => recordStart rest rest
  | '\r' :: ',' :: rest => recordStart mark rest
  | '\r' :: rest => recordStart mark rest
  | _ => if cs.head?.any isGap then mark else cs
termination_by cs.length
decreasing_by
  all_goals
    have bound := length_dropWhile_le isGap cs
    simp only [_behind, List.length_cons] at bound
    omega

/-- A record starts where the search for it did or behind. -/
theorem length_recordStart_le (mark cs : List Char) (h : cs.length ≤ mark.length) :
    (recordStart mark cs).length ≤ mark.length := by
  have bound := length_dropWhile_le isGap cs
  fun_induction recordStart mark cs <;> grind [length_dropWhile_le]

/-- Reads a text from a reader on. Blank lines between records are skipped, and a carriage return
outside quotes breaks a line, together with the line feed behind it if there is one. -/
def readFrom (r : Reader) (cs : List Char) : Reader :=
  match _rest : if r.isFresh then recordStart cs cs else cs with
  | [] => r
  | c :: rest =>
    if c = '\r' ∧ r.position ≠ .quoted then
      readFrom (r.step '\n') (if rest.head? = some '\n' then rest.tail else rest)
    else readFrom (r.step c) rest
termination_by cs.length
decreasing_by
  all_goals
    have bound := length_recordStart_le cs cs (Nat.le_refl _)
    grind

/-- The records of a CSV text; none if a quote is left open. A mark of the byte order in front is
skipped. -/
def records? (s : String) : Option (List (List String)) :=
  let cs := match s.toList with
    | c :: rest => if c = Char.ofNat 0xFEFF then rest else c :: rest
    | [] => []
  let r := readFrom .start cs
  if r.position = .quoted then none
  else if r.isFresh then some r.records.reverse
  else some r.endRecord.records.reverse

end Reporting.Csv
