import Reporting.Csv
import Reporting.Proofs.Outcome

/-!
# Reading written tables

A written table can be read back. `quotedRecords?` reads texts all of whose fields are quoted, and
accepts exactly the texts of tables (`quotedRecords?_eq_some_iff`); the reader of uploads reads the
same records from them (`records?_text`). Hence a table of rows is told by its text, wherever it has one
(`ofRows_roundTrip`).
-/

namespace Reporting.Csv

/-! ## A reader of quoted fields -/

/-- What is behind a place inside a field: the rest of the field, the other fields of its record and
the other records. -/
structure Remainder where
  chars : List Char
  fields : List String
  records : List (List String)

namespace Remainder

/-- The same behind a character of the field. -/
def push (c : Char) (r : Remainder) : Remainder := { r with chars := c :: r.chars }

/-- The record that starts with the rest of the field. -/
def record (r : Remainder) : List String := String.ofList r.chars :: r.fields

/-- What is behind the field in front. -/
def nextField (r : Remainder) : Remainder := ⟨[], r.record, r.records⟩

/-- What is behind the last field of the record in front. -/
def nextRecord (r : Remainder) : Remainder := ⟨[], [], r.record :: r.records⟩

/-- The text of fields and records behind a field. -/
def behind (fields : List String) (records : List (List String)) : List Char :=
  (fields.flatMap fun s => ',' :: field s) ++ records.flatMap fun cells => '\n' :: Csv.record cells

/-- The text of what is behind a place inside a field. -/
def text (r : Remainder) : List Char :=
  doubleQuotes r.chars ++ '"' :: behind r.fields r.records

end Remainder

mutual

/-- Reads from inside a field on. -/
def readInside? : List Char → Option Remainder
  | [] => none
  | c :: cs => if c = '"' then readBehind? cs else (readInside? cs).map (.push c)

/-- Reads from behind a quote inside a field on. It closes the field unless another follows. -/
def readBehind? : List Char → Option Remainder
  | [] => some ⟨[], [], []⟩
  | '"' :: cs => (readInside? cs).map (.push '"')
  | ',' :: '"' :: cs => (readInside? cs).map .nextField
  | '\n' :: '"' :: cs => (readInside? cs).map .nextRecord
  | _ => none

end

/-- The records of a text all of whose fields are quoted. -/
def quotedRecords? : List Char → Option (List (List String))
  | '"' :: cs => (readInside? cs).map fun r => r.record :: r.records
  | _ => none

theorem readInside?_quote (cs : List Char) : readInside? ('"' :: cs) = readBehind? cs := by
  rw [readInside?, if_pos rfl]

theorem readInside?_of_ne {c : Char} (h : c ≠ '"') (cs : List Char) :
    readInside? (c :: cs) = (readInside? cs).map (.push c) := by
  rw [readInside?, if_neg h]

/-! ## Written texts -/

theorem doubleQuotes_quote (cs : List Char) :
    doubleQuotes ('"' :: cs) = '"' :: '"' :: doubleQuotes cs := rfl

theorem doubleQuotes_of_ne {c : Char} (h : c ≠ '"') (cs : List Char) :
    doubleQuotes (c :: cs) = c :: doubleQuotes cs := by
  rw [doubleQuotes, List.flatMap_cons, if_neg h]
  rfl

theorem record_cons (s : String) (cells : List String) :
    record (s :: cells) = field s ++ cells.flatMap fun other => ',' :: field other := by
  rw [record, List.map_cons, Text.joined_cons, List.flatMap_map]
  rfl

namespace Remainder

/-- The quote that opens a field and what is behind it start with the record of the field. -/
theorem quote_text (r : Remainder) :
    '"' :: r.text =
      Csv.record r.record ++ r.records.flatMap fun cells => '\n' :: Csv.record cells := by
  simp [text, behind, record, record_cons, field]

theorem text_push_quote (r : Remainder) : (r.push '"').text = '"' :: '"' :: r.text := rfl

theorem text_push_of_ne {c : Char} (h : c ≠ '"') (r : Remainder) :
    (r.push c).text = c :: r.text := by
  rw [text, push, doubleQuotes_of_ne h]
  rfl

theorem text_nextField (r : Remainder) : r.nextField.text = '"' :: ',' :: '"' :: r.text := by
  simp [text, nextField, behind, record, field, doubleQuotes]

theorem text_nextRecord (r : Remainder) : r.nextRecord.text = '"' :: '\n' :: '"' :: r.text := by
  rw [quote_text]
  rfl

/-- A remainder without empty records. -/
def IsFilled (r : Remainder) : Prop := ∀ cells ∈ r.records, cells ≠ []

end Remainder

theorem text_cons {cells : List String} (h : cells ≠ []) (records : List (List String)) :
    text (cells :: records) =
      record cells ++ records.flatMap fun cells => '\n' :: record cells := by
  have hcells : ¬ ((cells :: records).headD []).isEmpty = true := by simpa using h
  rw [text, if_neg hcells, List.map_cons, Text.joined_cons, List.flatMap_map]
  rfl

/-! ## Reading what is written -/

section Written

variable {cs : List Char} {fields : List String} {records : List (List String)}

/-- A reader that knows what is behind a field reads the field. -/
theorem readInside?_text
    (h : readBehind? (Remainder.behind fields records) = some ⟨[], fields, records⟩) :
    readInside? (Remainder.text ⟨cs, fields, records⟩) = some ⟨cs, fields, records⟩ := by
  induction cs with
  | nil => exact (readInside?_quote _).trans h
  | cons c cs ih =>
    rw [Remainder.text] at ih ⊢
    by_cases hc : c = '"'
    · subst hc
      rw [doubleQuotes_quote, List.cons_append, List.cons_append, readInside?_quote, readBehind?,
        ih]
      rfl
    · rw [doubleQuotes_of_ne hc, List.cons_append, readInside?_of_ne hc, ih]
      rfl

theorem readBehind?_fields
    (h : readBehind? (Remainder.behind [] records) = some ⟨[], [], records⟩) :
    readBehind? (Remainder.behind fields records) = some ⟨[], fields, records⟩ := by
  induction fields with
  | nil => exact h
  | cons s fields ih =>
    have hread : readInside? (Remainder.text ⟨s.toList, fields, records⟩) =
        some ⟨s.toList, fields, records⟩ := readInside?_text ih
    have htext : Remainder.behind (s :: fields) records =
        ',' :: '"' :: Remainder.text ⟨s.toList, fields, records⟩ := by
      simp [Remainder.behind, Remainder.text, field]
    rw [htext, readBehind?, hread]
    simp [Remainder.nextField, Remainder.record]

theorem readBehind?_behind (h : ∀ cells ∈ records, cells ≠ []) :
    readBehind? (Remainder.behind fields records) = some ⟨[], fields, records⟩ := by
  refine readBehind?_fields ?_
  induction records with
  | nil => rfl
  | cons cells records ih =>
    obtain ⟨s, rest, rfl⟩ := List.exists_cons_of_ne_nil (h cells (by simp))
    have hbehind := ih fun others hothers => h others (by simp [hothers])
    have hread : readInside? (Remainder.text ⟨s.toList, rest, records⟩) =
        some ⟨s.toList, rest, records⟩ := readInside?_text (readBehind?_fields hbehind)
    have htext : Remainder.behind [] ((s :: rest) :: records) =
        '\n' :: '"' :: Remainder.text ⟨s.toList, rest, records⟩ := by
      rw [Remainder.quote_text]
      simp [Remainder.behind, Remainder.record]
    rw [htext, readBehind?, hread]
    simp [Remainder.nextRecord, Remainder.record]

end Written

/-! ## Nothing else is read -/

/-- A remainder behind characters from which another one was read. -/
theorem text_of_map (front : List Char) {cs : List Char} {f : Remainder → Remainder} {r : Remainder}
    (ih : ∀ r, readInside? cs = some r → cs = r.text ∧ r.IsFilled)
    (htext : ∀ r, (f r).text = front ++ r.text) (hfilled : ∀ r, r.IsFilled → (f r).IsFilled)
    (h : (readInside? cs).map f = some r) : front ++ cs = r.text ∧ r.IsFilled := by
  obtain ⟨rest, hrest, rfl⟩ := Option.map_eq_some_iff.1 h
  obtain ⟨hcs, hrecords⟩ := ih rest hrest
  exact ⟨by rw [htext, hcs], hfilled rest hrecords⟩

/-- A reader accepts written texts only. -/
theorem text_of_read :
    (∀ cs r, readInside? cs = some r → cs = r.text ∧ r.IsFilled) ∧
    ∀ cs r, readBehind? cs = some r → '"' :: cs = r.text ∧ r.IsFilled := by
  refine readInside?.mutual_induct
    (fun cs => ∀ r, readInside? cs = some r → cs = r.text ∧ r.IsFilled)
    (fun cs => ∀ r, readBehind? cs = some r → '"' :: cs = r.text ∧ r.IsFilled)
    ?nil ?quote ?char ?closed ?doubled ?field ?record ?other
  case nil => exact fun r h => nomatch h
  case quote =>
    intro cs ih r h
    rw [readInside?_quote] at h
    exact ih r h
  case char =>
    intro c cs hc ih r h
    rw [readInside?_of_ne hc] at h
    exact text_of_map [c] ih (Remainder.text_push_of_ne hc) (fun _ hrest => hrest) h
  case closed =>
    intro r h
    obtain rfl := Option.some.inj h
    exact ⟨rfl, nofun⟩
  case doubled =>
    intro cs ih r h
    rw [readBehind?] at h
    exact text_of_map ['"', '"'] ih Remainder.text_push_quote (fun _ hrest => hrest) h
  case field =>
    intro cs ih r h
    rw [readBehind?] at h
    exact text_of_map ['"', ',', '"'] ih Remainder.text_nextField (fun _ hrest => hrest) h
  case record =>
    intro cs ih r h
    rw [readBehind?] at h
    exact text_of_map ['"', '\n', '"'] ih Remainder.text_nextRecord
      (fun rest hrest => List.forall_mem_cons.2 ⟨nofun, hrest⟩) h
  case other =>
    intro cs hnil hquote hfield hrecord r h
    rw [readBehind?] at h
    · cases h
    all_goals assumption

/-- **Reading accepts exactly the written tables.** -/
theorem quotedRecords?_eq_some_iff {cs : List Char} {records : List (List String)} :
    quotedRecords? cs = some records ↔
      records ≠ [] ∧ (∀ cells ∈ records, cells ≠ []) ∧ cs = text records := by
  constructor
  · intro h
    unfold quotedRecords? at h
    split at h
    · next rest =>
      obtain ⟨r, hr, rfl⟩ := Option.map_eq_some_iff.1 h
      obtain ⟨htext, hfilled⟩ := text_of_read.1 rest r hr
      refine ⟨by simp, List.forall_mem_cons.2 ⟨nofun, hfilled⟩, ?_⟩
      rw [htext, Remainder.quote_text]
      exact (text_cons (List.cons_ne_nil _ _) r.records).symm
    · cases h
  · rintro ⟨hne, hfilled, rfl⟩
    obtain ⟨cells, records, rfl⟩ := List.exists_cons_of_ne_nil hne
    obtain ⟨hcells, hrecords⟩ := List.forall_mem_cons.1 hfilled
    obtain ⟨s, rest, rfl⟩ := List.exists_cons_of_ne_nil hcells
    have htext := Remainder.quote_text ⟨s.toList, rest, records⟩
    simp only [Remainder.record, String.ofList_toList] at htext
    rw [text_cons hcells, ← htext, quotedRecords?, readInside?_text (readBehind?_behind hrecords)]
    simp [Remainder.record]

/-! ## The reader of uploads -/

section Upload

variable {r : Reader}

theorem recordStart_quote (mark cs : List Char) : recordStart mark ('"' :: cs) = '"' :: cs := by
  rw [recordStart]
  rfl

theorem readFrom_nil (r : Reader) : readFrom r [] = r := by
  have hrest : (if r.isFresh then recordStart [] [] else []) = [] := by
    split
    · rw [recordStart]
      rfl
    · rfl
  rw [readFrom]
  split
  · rfl
  · next c rest hcons =>
    rw [hrest] at hcons
    cases hcons

/-- A character is read where the reader stands, unless it breaks a line outside quotes. -/
theorem readFrom_cons {c : Char} {cs : List Char}
    (hstart : r.isFresh = true → recordStart (c :: cs) (c :: cs) = c :: cs)
    (hc : c ≠ '\r' ∨ r.position = .quoted) : readFrom r (c :: cs) = readFrom (r.step c) cs := by
  have hrest : (if r.isFresh then recordStart (c :: cs) (c :: cs) else c :: cs) = c :: cs := by
    split
    · next hfresh => exact hstart hfresh
    · rfl
  rw [readFrom]
  split
  · next hnil =>
    rw [hrest] at hnil
    cases hnil
  · next other rest hcons =>
    obtain ⟨rfl, rfl⟩ := List.cons.inj (hrest.symm.trans hcons)
    rw [if_neg]
    rintro ⟨rfl, hposition⟩
    exact hc.elim (absurd rfl) hposition

theorem readFrom_cons_of_ne_start {c : Char} (hr : r.position ≠ .start)
    (hc : c ≠ '\r' ∨ r.position = .quoted) (cs : List Char) :
    readFrom r (c :: cs) = readFrom (r.step c) cs :=
  readFrom_cons (fun hfresh => absurd hfresh (by simp [Reader.isFresh, hr])) hc

/-- A quote in front of a field opens it, also at the start of a record. -/
theorem readFrom_quote (hr : r.position = .start) (cs : List Char) :
    readFrom r ('"' :: cs) = readFrom { r with position := .quoted } cs := by
  rw [readFrom_cons (fun _ => recordStart_quote _ _) (.inl (by decide)), Reader.step, hr]
  rfl

/-- A reader inside quotes reads to the quote that closes them. -/
theorem readFrom_doubleQuotes (hr : r.position = .quoted) (cs rest : List Char) :
    readFrom r (doubleQuotes cs ++ '"' :: rest) =
      readFrom { r with position := .closing, chars := cs.reverse ++ r.chars } rest := by
  induction cs generalizing r with
  | nil =>
    rw [doubleQuotes, List.flatMap_nil, List.nil_append,
      readFrom_cons_of_ne_start (by simp [hr]) (.inr hr)]
    simp [Reader.step, hr]
  | cons c cs ih =>
    by_cases hc : c = '"'
    · subst hc
      rw [doubleQuotes_quote, List.cons_append, List.cons_append,
        readFrom_cons_of_ne_start (by simp [hr]) (.inr hr),
        readFrom_cons_of_ne_start (by simp [Reader.step, hr]) (.inl (by decide))]
      simp [Reader.step, hr, Reader.push, ih]
    · rw [doubleQuotes_of_ne hc, List.cons_append,
        readFrom_cons_of_ne_start (by simp [hr]) (.inr hr)]
      simp [Reader.step, hr, hc, Reader.push, ih]

theorem readFrom_field (hr : r.position = .start) (hchars : r.chars = []) (s : String)
    (rest : List Char) :
    readFrom r (field s ++ rest) =
      readFrom { r with position := .closing, chars := s.toList.reverse } rest := by
  rw [field, List.cons_append, List.cons_append, List.append_assoc, List.singleton_append]
  exact (readFrom_quote hr _).trans
    ((readFrom_doubleQuotes rfl _ _).trans (by simp [hchars]))

/-- A reader behind a quoted field reads the fields behind it. -/
theorem readFrom_fields (hr : r.position = .closing) (cells : List String) (rest : List Char) :
    ∃ t : Reader, readFrom r ((cells.flatMap fun s => ',' :: field s) ++ rest) = readFrom t rest ∧
      t.position = .closing ∧ t.records = r.records ∧
      t.endField.fields.reverse = r.endField.fields.reverse ++ cells := by
  induction cells generalizing r with
  | nil => exact ⟨r, rfl, hr, rfl, by simp⟩
  | cons s cells ih =>
    have hcomma : readFrom r (((s :: cells).flatMap fun s => ',' :: field s) ++ rest) =
        readFrom { r.endField with position := .closing, chars := s.toList.reverse }
          ((cells.flatMap fun s => ',' :: field s) ++ rest) := by
      rw [List.flatMap_cons, List.append_assoc, List.cons_append,
        readFrom_cons_of_ne_start (by simp [hr]) (.inl (by decide)), Reader.step, hr]
      exact readFrom_field rfl rfl s _
    obtain ⟨t, hread, hposition, hrecords, hfields⟩ :=
      @ih { r.endField with position := .closing, chars := s.toList.reverse } rfl
    refine ⟨t, hcomma.trans hread, hposition, hrecords, hfields.trans ?_⟩
    simp [Reader.endField]

/-- A reader behind a quoted field reads the rest of its record and the records behind it. -/
theorem readFrom_behind (hr : r.position = .closing) (cells : List String)
    {records : List (List String)} (hrecords : ∀ cells ∈ records, cells ≠ []) :
    (readFrom r (Remainder.behind cells records)).position = .closing ∧
      (readFrom r (Remainder.behind cells records)).endRecord.records.reverse =
        r.records.reverse ++ (r.endField.fields.reverse ++ cells) :: records := by
  induction records generalizing r cells with
  | nil =>
    obtain ⟨t, hread, hposition, hkept, hfields⟩ := readFrom_fields hr cells []
    rw [Remainder.behind, List.flatMap_nil, hread, readFrom_nil]
    refine ⟨hposition, ?_⟩
    rw [Reader.endRecord, List.reverse_cons, hfields]
    exact congrArg (fun ended => ended.reverse ++ _) hkept
  | cons others records ih =>
    obtain ⟨s, rest, rfl⟩ := List.exists_cons_of_ne_nil (hrecords others (by simp))
    obtain ⟨t, hread, hposition, hkept, hfields⟩ := readFrom_fields hr cells
      (((s :: rest) :: records).flatMap fun cells => '\n' :: record cells)
    -- The line break ends the record, and the next one starts with a quoted field.
    let next : Reader := { t.endRecord with position := .closing, chars := s.toList.reverse }
    have hbreak : readFrom t (((s :: rest) :: records).flatMap fun cells => '\n' :: record cells) =
        readFrom next (Remainder.behind rest records) := by
      rw [List.flatMap_cons, List.cons_append, record_cons, List.append_assoc,
        readFrom_cons_of_ne_start (by simp [hposition]) (.inl (by decide)), Reader.step, hposition]
      exact readFrom_field rfl rfl s _
    obtain ⟨hclosed, hall⟩ :=
      @ih next rfl rest fun cells hcells => hrecords cells (List.mem_cons_of_mem _ hcells)
    have hended : next.records.reverse =
        r.records.reverse ++ [r.endField.fields.reverse ++ cells] := by
      have hsame : t.endField.records = r.records := hkept
      simp [next, Reader.endRecord, hfields, hsame]
    have hstarted : next.endField.fields.reverse = [s] := by
      simp [next, Reader.endField, Reader.endRecord]
    rw [Remainder.behind, hread, hbreak]
    exact ⟨hclosed, by simp [hall, hended, hstarted]⟩

/-- A text that starts with a quote is read from there. -/
theorem records?_quote {cs : List Char} {r : Reader} (h : readFrom .start ('"' :: cs) = r)
    (hr : r.position = .closing) :
    records? (String.ofList ('"' :: cs)) = some r.endRecord.records.reverse := by
  have hmark : ¬ '"' = Char.ofNat 0xFEFF := by decide
  simp only [records?, String.toList_ofList, if_neg hmark, h]
  simp [Reader.isFresh, hr]

/-- **Uploads read what is written.** -/
theorem records?_text {records : List (List String)} (hne : records ≠ [])
    (hrecords : ∀ cells ∈ records, cells ≠ []) :
    records? (String.ofList (text records)) = some records := by
  obtain ⟨cells, records, rfl⟩ := List.exists_cons_of_ne_nil hne
  obtain ⟨hcells, hothers⟩ := List.forall_mem_cons.1 hrecords
  obtain ⟨s, rest, rfl⟩ := List.exists_cons_of_ne_nil hcells
  have htext : text ((s :: rest) :: records) = field s ++ Remainder.behind rest records := by
    rw [text_cons hcells, record_cons, List.append_assoc]
    rfl
  let first : Reader := { Reader.start with position := .closing, chars := s.toList.reverse }
  have hread : readFrom .start (text ((s :: rest) :: records)) =
      readFrom first (Remainder.behind rest records) := by
    rw [htext]
    exact readFrom_field rfl rfl s _
  obtain ⟨hclosed, hall⟩ := @readFrom_behind first rfl rest records hothers
  rw [htext] at hread ⊢
  refine (records?_quote hread hclosed).trans (congrArg some (hall.trans ?_))
  simp [first, Reader.start, Reader.endField]

end Upload

/-! ## Tables of rows -/

/-- The header under which rows are written: the columns, or those of the first row if there are
none. -/
def headerOf (columns : List String) (rows : List Row) : List String :=
  if columns.isEmpty then columnsOf rows else columns

/-- The cells of a row in the columns of a header. -/
def IsWrittenAs (header : List String) (row : Row) (cells : List String) : Prop :=
  List.Forall₂ (fun column cell => cellText (row.cell column) = .ok cell) header cells

theorem exists_cellText_iff {value : Value} : (∃ s, cellText value = .ok s) ↔ value.IsWritable := by
  have htext : (∃ s, value.toText = .ok s) ↔ value.IsWritable := by
    rw [Value.toText]
    split
    · next h => exact ⟨fun _ => h, fun _ => ⟨_, rfl⟩⟩
    · next h => exact iff_of_false (by simp) h
  cases value with
  | bool b => exact ⟨fun _ => trivial, fun _ => ⟨_, rfl⟩⟩
  | null | number | text | list | object => exact htext

theorem table_eq_ok {columns : List String} {rows : List Row} {cells : List (List String)} :
    table columns rows = .ok cells ↔
      ∃ records, cells = columns :: records ∧ List.Forall₂ (IsWrittenAs columns) rows records := by
  rw [table, Outcome.bind_eq_ok]
  simp only [Outcome.pure_eq_ok, Outcome.mapM_eq_ok]
  exact exists_congr fun records => ⟨fun h => ⟨h.2.symm, h.1⟩, fun h => ⟨h.2, h.1.symm⟩⟩

/-- A table can be written if its cells can. -/
theorem exists_table_iff {columns : List String} {rows : List Row} :
    (∃ cells, table columns rows = .ok cells) ↔
      ∀ row ∈ rows, ∀ column ∈ columns, (row.cell column).IsWritable := by
  have hrows : (∃ cells, table columns rows = .ok cells) ↔
      ∃ records, rows.mapM (fun row => columns.mapM fun column => cellText (row.cell column)) =
        .ok records := by
    rw [table]
    simp only [Outcome.bind_eq_ok, Outcome.pure_eq_ok]
    exact ⟨fun ⟨_, records, h, _⟩ => ⟨records, h⟩, fun ⟨records, h⟩ => ⟨_, records, h, rfl⟩⟩
  simp only [hrows, Outcome.exists_mapM_iff, exists_cellText_iff]

theorem ofRows_eq_ok {columns : List String} {rows : List Row} {s : String} :
    ofRows columns rows = .ok s ↔
      ∃ cells, table (headerOf columns rows) rows = .ok cells ∧ s = String.ofList (text cells) := by
  rw [ofRows, Outcome.bind_eq_ok]
  exact exists_congr fun cells => and_congr_right fun _ => Outcome.pure_eq_ok.trans eq_comm

/-- The records of a table with columns have fields. -/
theorem ne_nil_of_table {header : List String} {rows : List Row} {cells : List (List String)}
    (hheader : header ≠ []) (h : table header rows = .ok cells) :
    cells ≠ [] ∧ ∀ record ∈ cells, record ≠ [] := by
  obtain ⟨records, rfl, hrecords⟩ := table_eq_ok.1 h
  have hfilled : ∀ record row, IsWrittenAs header row record → record ≠ [] := by
    rintro _ row hrow rfl
    exact hheader (List.forall₂_nil_right_iff.1 hrow)
  have hall := hrecords.flip.imp fun record row hrow => And.intro (hfilled record row hrow) hrow
  exact ⟨by simp, List.forall_mem_cons.2 ⟨hheader, ((List.forall₂_and_left _ _).1 hall).1⟩⟩

theorem exists_ofRows_iff {columns : List String} {rows : List Row} :
    (∃ s, ofRows columns rows = .ok s) ↔
      ∀ row ∈ rows, ∀ column ∈ headerOf columns rows, (row.cell column).IsWritable := by
  rw [← exists_table_iff]
  simp only [ofRows_eq_ok]
  exact ⟨fun ⟨_, cells, h, _⟩ => ⟨cells, h⟩, fun ⟨cells, h⟩ => ⟨_, cells, h, rfl⟩⟩

/-- A text is written for rows exactly if their table is read from it. -/
theorem ofRows_eq_ok_iff_read {columns : List String} {rows : List Row}
    (hheader : headerOf columns rows ≠ []) {s : String} :
    ofRows columns rows = .ok s ↔
      ∃ cells, table (headerOf columns rows) rows = .ok cells ∧
        quotedRecords? s.toList = some cells := by
  rw [ofRows_eq_ok]
  refine exists_congr fun cells => and_congr_right fun hcells => ?_
  obtain ⟨hne, hfilled⟩ := ne_nil_of_table hheader hcells
  rw [quotedRecords?_eq_some_iff, ← String.toList_inj, String.toList_ofList]
  exact ⟨fun h => ⟨hne, hfilled, h⟩, fun h => h.2.2⟩

/-- **Written rows can be read back.** As soon as their cells can be written, rows have a text, and
it is the one text from which the header and one record for each row are read; so texts of tables
that differ differ too. Uploads read the same from it. -/
theorem ofRows_roundTrip (columns : List String) (rows : List Row)
    (hheader : headerOf columns rows ≠ []) :
    ((∃ s, ofRows columns rows = .ok s) ↔
      ∀ row ∈ rows, ∀ column ∈ headerOf columns rows, (row.cell column).IsWritable) ∧
    (∀ s, ofRows columns rows = .ok s ↔
      ∃ records, quotedRecords? s.toList = some (headerOf columns rows :: records) ∧
        List.Forall₂ (IsWrittenAs (headerOf columns rows)) rows records) ∧
    ∀ s, ofRows columns rows = .ok s →
      records? s = quotedRecords? s.toList ∧
      ∀ otherColumns others, headerOf otherColumns others ≠ [] →
        ofRows otherColumns others = .ok s →
          table (headerOf otherColumns others) others = table (headerOf columns rows) rows := by
  refine ⟨exists_ofRows_iff, fun s => ?_,
    fun s hs => ⟨?_, fun otherColumns others hother hsame => ?_⟩⟩
  · rw [ofRows_eq_ok_iff_read hheader]
    simp only [table_eq_ok]
    constructor
    · rintro ⟨_, ⟨records, rfl, hrecords⟩, hread⟩
      exact ⟨records, hread, hrecords⟩
    · rintro ⟨records, hread, hrecords⟩
      exact ⟨_, ⟨records, rfl, hrecords⟩, hread⟩
  · obtain ⟨cells, hcells, rfl⟩ := ofRows_eq_ok.1 hs
    obtain ⟨hne, hfilled⟩ := ne_nil_of_table hheader hcells
    have hread := quotedRecords?_eq_some_iff.2 ⟨hne, hfilled, rfl⟩
    rw [records?_text hne hfilled, String.toList_ofList, hread]
  · obtain ⟨cells, hcells, hread⟩ := (ofRows_eq_ok_iff_read hheader).1 hs
    obtain ⟨otherCells, hotherCells, hotherRead⟩ := (ofRows_eq_ok_iff_read hother).1 hsame
    rw [hcells, hotherCells, Option.some.inj (hotherRead.symm.trans hread)]

/-- A note with a quote, a comma and a line break at its end, and a row without one. -/
def noteRows : List Row :=
  [.ofList [("note", .text "say \"hi\",\n"), ("done", .bool true)], .ofList [("done", .null)]]

theorem ofRows_roundTrip_notes :
    headerOf [] noteRows = ["note", "done"] ∧
    ∃ s, ofRows [] noteRows = .ok s ∧
      quotedRecords? s.toList = some [["note", "done"], ["say \"hi\",\n", "TRUE"], ["", ""]] := by
  have hheader : headerOf [] noteRows = ["note", "done"] := by decide +kernel
  have hwritable : ∀ row ∈ noteRows, ∀ column ∈ headerOf [] noteRows,
      (row.cell column).IsWritable := by decide +kernel
  have htable : table (headerOf [] noteRows) noteRows =
      .ok [["note", "done"], ["say \"hi\",\n", "TRUE"], ["", ""]] := by decide +kernel
  obtain ⟨hexists, hread, -⟩ := ofRows_roundTrip [] noteRows (hheader ▸ List.cons_ne_nil _ _)
  obtain ⟨s, hs⟩ := hexists.2 hwritable
  obtain ⟨records, hrecords, hrows⟩ := (hread s).1 hs
  refine ⟨hheader, s, hs, hrecords.trans (congrArg some ?_)⟩
  exact Except.ok.inj ((table_eq_ok.2 ⟨records, rfl, hrows⟩).symm.trans htable)

/-- Rows may have no text. -/
theorem exists_rows_unwritten :
    ¬ ∀ (columns : List String) (rows : List Row), headerOf columns rows ≠ [] →
      ∃ s records, ofRows columns rows = .ok s ∧
        quotedRecords? s.toList = some (headerOf columns rows :: records) := by
  intro h
  let rows : List Row := [.ofList [("amount", .int (10 ^ Text.digitLimit))]]
  have hheader : headerOf [] rows = ["amount"] := by decide +kernel
  have hfails : ofRows [] rows = .error .tooManyDigits := by decide +kernel
  obtain ⟨s, records, hs, -⟩ := h [] rows (hheader ▸ List.cons_ne_nil _ _)
  cases hfails.symm.trans hs

end Reporting.Csv
