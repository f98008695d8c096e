import Reporting.Numeral
import Reporting.Text.Blank
import Reporting.Text.Digit
import Reporting.Value

/-!
# Readers of wire objects

Models travel as objects with one entry for each field. A reader takes a value to what it means, or
refuses it. Readers are lenient where no meaning is lost: whole numbers may come as doubles, truth
values or text, and truth values as numbers or words. A field is found under the first of its names
that the object has, and a field that is absent has a default or makes the object unreadable.
-/

namespace Reporting.Wire

/-- Takes a value to what it means, or refuses it. -/
abbrev Reader (α : Type) := Value → Option α

/-- The entries of an object. -/
abbrev Entries := List (String × Value)

/-! ## Scalars -/

/-- A text. -/
def text : Reader String
  | .text s => some s
  | _ => none

/-- Any value, as it is. -/
def anything : Reader Value := some

/-- The blanks that may stand around a number: those of texts, less the four separators. -/
def isPadding (c : Char) : Bool := Text.isBlank c && !(0x1C ≤ c.toNat && c.toNat ≤ 0x1F)

/-- Characters without the padding at either end. -/
def withoutPadding (cs : List Char) : List Char :=
  ((cs.dropWhile isPadding).reverse.dropWhile isPadding).reverse

/-- The digits of a number without the zeros in front of it. Underscores may stand behind the first
zero, and the last of them all stays if no other digit follows. Nothing but a digit may come first,
and nothing but a digit, a minus sign or a point behind the zeros. -/
def withoutLeadingZeros? : List Char → Option (List Char)
  | '0' :: rest =>
    let zeros := rest.takeWhile fun c => c = '0' || c = '_'
    match rest.drop zeros.length with
    | [] => some [zeros.getLastD '0']
    | '.' :: fraction => some (zeros.getLastD '0' :: '.' :: fraction)
    | c :: digits => if c = '-' ∨ Text.isPlainDigit c then some (c :: digits) else none
  | c :: digits => if Text.isPlainDigit c then some (c :: digits) else none
  | [] => none

/-- Characters before a point and the zeros that follow it, if nothing else does. -/
def beforeZeroFraction (cs : List Char) : List Char :=
  match cs.dropWhile (· ≠ '.') with
  | '.' :: '0' :: zeros => if zeros.all (· = '0') then cs.takeWhile (· ≠ '.') else cs
  | _ => cs

/-- Whether two underscores stand side by side. -/
def hasDoubleUnderscore : List Char → Bool
  | '_' :: '_' :: _ => true
  | _ :: rest => hasDoubleUnderscore rest
  | [] => false

/-- Characters without their underscores, if those are single and stand between others. -/
def withoutUnderscores (cs : List Char) : List Char :=
  if cs.head? = some '_' ∨ cs.getLast? = some '_' ∨ hasDoubleUnderscore cs then cs
  else cs.filter (· ≠ '_')

/-- The natural number that digits without a zero in front spell. -/
def naturalOfDigits (digits : List Char) : Option Nat :=
  if digits = ['0'] then some 0
  else if digits.isEmpty ∨ digits.head? = some '0' ∨ ¬ digits.all Text.isPlainDigit
      ∨ Text.digitLimit < digits.length then none
  else some (Text.digitsValue digits)

/-- The digits of a number that zeros, underscores and a fraction of zeros may pad out. -/
def barePart? (cs : List Char) : Option (List Char) :=
  (withoutLeadingZeros? cs).map fun digits => withoutUnderscores (beforeZeroFraction digits)

/-- The integer that a text spells: a sign and digits, and perhaps a fraction of zeros. A minus sign
may also stand behind zeros. -/
def integerOfText (s : String) : Option Int :=
  let unsigned (cs : List Char) : Option Int := do
    match ← barePart? cs with
    | '-' :: digits => return -(← naturalOfDigits digits : Nat)
    | digits => return (← naturalOfDigits digits : Nat)
  match withoutPadding s.toList with
  | '-' :: rest => do return -(← naturalOfDigits (← barePart? rest) : Nat)
  | '+' :: rest => unsigned rest
  | cs => unsigned cs

/-- The integer that a double equals, if it is less than `2 ^ 63` in size. -/
def integerOfDouble (x : Double) : Option Int :=
  x.toInt?.filter fun n => -2 ^ 63 < n ∧ n < 2 ^ 63

/-- An integer, a truth value as zero or one, a double without a fraction, or a text that spells an
integer. -/
def integer : Reader Int
  | .number (.int n) => some n
  | .number (.double x) => integerOfDouble x
  | .bool b => some (if b then 1 else 0)
  | .text s => integerOfText s
  | _ => none

/-- A whole number within bounds, ends included. -/
def integerWithin (low high : Int) : Reader Int := fun value =>
  (integer value).filter fun n => low ≤ n ∧ n ≤ high

/-- The words for no. -/
def noWords : List String := ["0", "off", "f", "false", "n", "no"]

/-- The words for yes. -/
def yesWords : List String := ["1", "on", "t", "true", "y", "yes"]

/-- A truth value, zero or one, or a word for it in any case. -/
def truth : Reader Bool
  | .bool b => some b
  | .number n =>
    match n.integral with
    | .int 0 => some false
    | .int 1 => some true
    | _ => none
  | .text s =>
    let word := s.map Char.toLower
    if noWords.contains word then some false
    else if yesWords.contains word then some true
    else none
  | _ => none

/-- The double that characters spell: a numeral in plain digits, or a word for infinity or for not a
number. -/
def doubleOfChars (cs : List Char) : Option Double :=
  match (Numeral.scan? cs).filter fun _ => cs.all (·.toNat < 128) with
  | some (numeral, []) => some numeral.toDouble
  | _ =>
    let (sign, word) := Numeral.scanSign (cs.map Char.toLower)
    if word = ['i', 'n', 'f'] ∨ word = ['i', 'n', 'f', 'i', 'n', 'i', 't', 'y'] then
      some (.infinite (sign = some '-'))
    else if word = ['n', 'a', 'n'] then some .nan
    else none

/-- The double that a text spells. Padding may stand around it, or single underscores in it. -/
def doubleOfText (s : String) : Option Double :=
  (doubleOfChars (withoutPadding s.toList)).or (doubleOfChars (withoutUnderscores s.toList))

/-- A number, with integers and doubles kept apart; a text counts as the integer that it spells, or
else as the double. -/
def number : Reader Number
  | .number n => some n
  | .bool b => some (.int (if b then 1 else 0))
  | .text s => ((integerOfText s).map Number.int).or ((doubleOfText s).map Number.double)
  | _ => none

/-- One of the values whose names are given. -/
def choice {α : Type} (name : α → String) (all : List α) : Reader α
  | .text s => all.find? fun a => name a = s
  | _ => none

/-! ## Compounds -/

/-- Null, or what another reader takes. -/
def nullable {α : Type} (reader : Reader α) : Reader (Option α)
  | .null => some none
  | value => (reader value).map some

/-- A list whose items are all of one sort. -/
def list {α : Type} (reader : Reader α) : Reader (List α)
  | .list items => items.mapM reader
  | _ => none

/-- An object whose values are all of one sort. -/
def table {α : Type} (reader : Reader α) : Reader (Keyed α)
  | .object entries => do
    return Keyed.ofList (← entries.mapM fun entry => do return (entry.1, ← reader entry.2))
  | _ => none

/-- A row: an object with any values. -/
def row : Reader Row := table anything

/-- An object, by its entries. -/
def entries : Reader Entries
  | .object fields => some fields
  | _ => none

/-! ## Fields -/

/-- The value under the first name that an object has. -/
def lookup (names : List String) (fields : Entries) : Option Value :=
  names.findSome? fun name => Keyed.find? name fields

/-- A field that has to be there. -/
def required {α : Type} (names : List String) (reader : Reader α) (fields : Entries) : Option α :=
  (lookup names fields).bind reader

/-- A field with a default. -/
def optional {α : Type} (names : List String) (reader : Reader α) (default : α)
    (fields : Entries) : Option α :=
  match lookup names fields with
  | some value => reader value
  | none => some default

/-! ## Writing -/

/-- A text, or null where there is none. -/
def ofText? (s : Option String) : Value := s.elim .null Value.text

/-- A list of texts. -/
def ofTexts (items : List String) : Value := .list (items.map Value.text)

/-- The object of a row. -/
def ofRow (row : Row) : Value := .object row.entries

/-- A list of rows. -/
def ofRows (rows : List Row) : Value := .list (rows.map ofRow)

/-- The object of a keyed table. -/
def ofTable {α : Type} (write : α → Value) (table : Keyed α) : Value :=
  .object (table.mapValues write).entries

end Reporting.Wire
