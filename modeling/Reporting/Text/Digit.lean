import Reporting.Basic

/-!
# Digits and integers

The decimal digits of all scripts. Each script has its ten digits in a row, so the zeros tell them
all. Numbers are written in the digits of the first script (`padded`), and read from any
(`digitsValue`) or from plain ones alone (`plainNumber?`).

An integer is spelled by an optional sign and digits, between which single underscores may stand.
Which characters count as digits is up to the place where the text is read. A text with too many
digits spells none.
-/

namespace Reporting.Text

/-- The code points of the zeros. -/
def digitZeros : List Nat := [
  0x30, 0x660, 0x6F0, 0x7C0, 0x966, 0x9E6, 0xA66, 0xAE6, 0xB66, 0xBE6, 0xC66, 0xCE6, 0xD66,
  0xDE6, 0xE50, 0xED0, 0xF20, 0x1040, 0x1090, 0x17E0, 0x1810, 0x1946, 0x19D0, 0x1A80, 0x1A90,
  0x1B50, 0x1BB0, 0x1C40, 0x1C50, 0xA620, 0xA8D0, 0xA900, 0xA9D0, 0xA9F0, 0xAA50, 0xABF0,
  0xFF10, 0x104A0, 0x10D30, 0x11066, 0x110F0, 0x11136, 0x111D0, 0x112F0, 0x11450, 0x114D0,
  0x11650, 0x116C0, 0x11730, 0x118E0, 0x11950, 0x11C50, 0x11D50, 0x11DA0, 0x16A60, 0x16AC0,
  0x16B50, 0x1D7CE, 0x1D7D8, 0x1D7E2, 0x1D7EC, 0x1D7F6, 0x1E140, 0x1E2F0, 0x1E950, 0x1FBF0]

/-- The value of a decimal digit of any script. -/
def digitValue? (c : Char) : Option Nat :=
  if c.toNat < 128 then
    if '0' ≤ c ∧ c ≤ '9' then some (c.toNat - 48) else none
  else
    (digitZeros.find? fun first => first ≤ c.toNat && c.toNat < first + 10).map (c.toNat - ·)

/-- Whether a character is a decimal digit of any script. -/
def isDigit (c : Char) : Bool := (digitValue? c).isSome

/-- Whether a character is a decimal digit of the first script. -/
def isPlainDigit (c : Char) : Bool := '0' ≤ c && c ≤ '9'

/-- The natural number that digits spell; other characters count as zero. -/
def digitsValue (digits : List Char) : Nat :=
  digits.foldl (fun n c => 10 * n + (digitValue? c).getD 0) 0

/-- The value of exactly so many plain digits at the start of a text, and what follows. -/
def plainNumber? (count : Nat) (cs : List Char) : Option (Nat × List Char) :=
  let digits := cs.take count
  if digits.length = count ∧ digits.all isPlainDigit then
    some (digitsValue digits, cs.drop count)
  else none

/-- The digits of a natural number in a base, with zeros in front up to a width. -/
def padded (base width n : Nat) : List Char :=
  List.replicate (width - (Nat.toDigits base n).length) '0' ++ Nat.toDigits base n

/-- Digits without the zeros at their end. -/
def dropTrailingZeros (digits : List Char) : List Char :=
  (digits.reverse.dropWhile (· = '0')).reverse

/-! ## Integers -/

/-- Digits without the single underscores between them. -/
def ungrouped? (counts : Char → Bool) : List Char → Option (List Char)
  | [] => none
  | [c] => if counts c then some [c] else none
  | c :: '_' :: rest => if counts c then (ungrouped? counts rest).map (c :: ·) else none
  | c :: rest => if counts c then (ungrouped? counts rest).map (c :: ·) else none

/-- The greatest number of digits that are read, zeros in front included. -/
def digitLimit : Nat := 4300

/-- The natural number that digits spell. -/
def natural? (counts : Char → Bool) (cs : List Char) : Option Nat :=
  ((ungrouped? counts cs).filter fun digits => digits.length ≤ digitLimit).map digitsValue

/-- The integer that an optional sign and digits spell. -/
def integer? (counts : Char → Bool) : List Char → Option Int
  | '-' :: rest => (natural? counts rest).map fun n => -(n : Int)
  | '+' :: rest => (natural? counts rest).map Int.ofNat
  | cs => (natural? counts cs).map Int.ofNat

end Reporting.Text
