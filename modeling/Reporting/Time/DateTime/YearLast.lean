import Reporting.Text.Digit
import Reporting.Text.Split
import Reporting.Time.Moment

/-!
# Dates with the year behind, and quarters

A month, a day and a year, or a month and a year, parted by single characters; and a quarter beside
a year, on either side of the letter Q. A text may have one of these forms and still tell no date,
so the readers give nothing for a text of another form, and nothing within for such a one.
-/

namespace Reporting.DateTime

/-! ## Month, day and year -/

/-- The characters that may part a month, a day and a year. -/
def isDelimiter (c : Char) : Bool := [' ', '-', '.', '/', '\x00'].contains c

/-- The first year that is read. -/
def firstYear : Nat := 1000

/-- The date of a month, a day and a year, if it occurs. -/
def checked (year month day : Nat) : Option Date :=
  let d : Date := ⟨year, month, day⟩
  if d.Occurs then some d else none

/-- The date of two numbers and a year: the first is the day if it is no month. -/
def ofNumbers (first second year : Nat) : Option Date :=
  if first ≤ 12 then checked year first second else checked year second first

/-- A text that consists of a month, a day and a year, or of a month and a year. A month has two
digits where no day follows, and no point behind it. -/
def yearLast? (cs : List Char) : Option (Option Date) := do
  let pieces := Text.cut isDelimiter cs
  if ¬ pieces.all fun piece => piece.all Text.isPlainDigit then none
  else
    match pieces with
    | [first, second, year] =>
      if first.length ∈ [1, 2] ∧ second.length ∈ [1, 2] ∧ year.length = 4
          ∧ firstYear ≤ Text.digitsValue year then
        some (ofNumbers (Text.digitsValue first) (Text.digitsValue second)
          (Text.digitsValue year))
      else none
    | [month, year] =>
      if month.length = 2 ∧ year.length = 4 ∧ cs[2]? ≠ some '.'
          ∧ firstYear ≤ Text.digitsValue year then
        some (checked (Text.digitsValue year) (Text.digitsValue month) 1)
      else none
    | _ => none

/-! ## Years and quarters -/

/-- An integer with blanks around it, in digits of any script. -/
def spelledInteger? (cs : List Char) : Option Int := Text.integer? Text.isDigit (Text.trimChars cs)

/-- The last so many characters of a text. -/
def lastChars (count : Nat) (cs : List Char) : List Char := cs.drop (cs.length - count)

/-- The century that years of two digits belong to here. -/
def century : Int := 2000

/-- The texts of the quarter and of the year around a Q at a position, and the year from which the
latter counts. A hyphen may stand between the Q and the year. -/
def quarterParts? (cs : List Char) : Nat → Option (List Char × List Char × Int)
  | 1 =>
    let parted := cs[2]? = some '-'
    if cs.length = 4 ∨ (cs.length = 5 ∧ parted) then some (cs.take 1, lastChars 2 cs, century)
    else if cs.length = 6 ∨ (cs.length = 7 ∧ parted) then some (cs.take 1, lastChars 4 cs, 0)
    else none
  | position =>
    let parted := cs[position - 1]? = some '-'
    if position < 4 then
      if cs.length = 4 ∨ (cs.length = 5 ∧ parted) then
        some (lastChars 1 cs, cs.take 2, century)
      else none
    else if cs.length = 6 ∨ (cs.length = 7 ∧ parted) then some (lastChars 1 cs, cs.take 4, 0)
    else none

/-- A text of four to seven characters that names a quarter of a year. -/
def quarter? (cs : List Char) : Option (Option Date) := do
  let position ← (List.range' 1 5).find? fun i => cs[i]? = some 'Q' ∨ cs[i]? = some 'q'
  let (quarterText, yearText, base) ← quarterParts? cs position
  let quarter ← spelledInteger? quarterText
  let year := base + (← spelledInteger? yearText)
  if ¬ (1 ≤ quarter ∧ quarter ≤ 4) then some none
  else
    let d : Date := ⟨year, (3 * (quarter - 1) + 1).toNat, 1⟩
    if d.IsValid then some (some d) else none

/-- A text of four characters that is a year. -/
def yearAlone? (cs : List Char) : Option Date := do
  let year ← if cs.length = 4 then spelledInteger? cs else none
  let d : Date := ⟨year, 1, 1⟩
  if d.IsValid then some d else none

end Reporting.DateTime
