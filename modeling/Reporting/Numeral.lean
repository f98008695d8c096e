import Reporting.Double.Decimal
import Reporting.Text.Digit

/-!
# Numerals

The written form of a decimal number: an optional sign, digits with an optional point among or in
front of them, and an optional exponent. `scan?` reads the longest numeral at the start of a text,
and `chars` writes a numeral back; `chars_append_rest` says that scanning loses nothing.
-/

namespace Reporting

/-- The exponent of a numeral: its mark, an optional sign, and digits. -/
structure Numeral.Exponent where
  mark : Char
  sign : Option Char
  digits : List Char
  deriving DecidableEq, Repr

/-- A numeral, part by part as written. -/
structure Numeral where
  sign : Option Char
  whole : List Char
  /-- The digits after the point, if there is a point. -/
  fraction : Option (List Char)
  exponent : Option Numeral.Exponent
  deriving DecidableEq, Repr

namespace Numeral

/-! ## Writing -/

/-- The characters of an exponent, if there is one. -/
def exponentChars : Option Exponent → List Char
  | some e => e.mark :: e.sign.toList ++ e.digits
  | none => []

/-- The characters of a point and the digits behind it, if there is a point. -/
def fractionChars : Option (List Char) → List Char
  | some digits => '.' :: digits
  | none => []

/-- The characters of a numeral. -/
def chars (n : Numeral) : List Char :=
  n.sign.toList ++ n.whole ++ fractionChars n.fraction ++ exponentChars n.exponent

/-! ## Reading -/

/-- Whether a character is a sign. -/
def isSign (c : Char) : Bool := c = '+' || c = '-'

/-- The sign at the start of a text, if there is one, and what follows. -/
def scanSign : List Char → Option Char × List Char
  | [] => (none, [])
  | c :: rest => if isSign c then (some c, rest) else (none, c :: rest)

/-- The exponent at the start of a text, if there is one, and what follows. A mark without digits
is no exponent. -/
def scanExponent : List Char → Option Exponent × List Char
  | [] => (none, [])
  | mark :: rest =>
    let (sign, afterSign) := scanSign rest
    let digits := afterSign.takeWhile Text.isDigit
    if (mark = 'e' ∨ mark = 'E') ∧ digits ≠ [] then
      (some ⟨mark, sign, digits⟩, afterSign.dropWhile Text.isDigit)
    else (none, mark :: rest)

/-- The digits after a point at the start of a text, if there is a point, and what follows. -/
def scanFraction : List Char → Option (List Char) × List Char
  | '.' :: rest => (some (rest.takeWhile Text.isDigit), rest.dropWhile Text.isDigit)
  | rest => (none, rest)

/-- The longest numeral at the start of a text, and what follows. A numeral has a digit before or
after its point. -/
def scan? (cs : List Char) : Option (Numeral × List Char) :=
  let (sign, unsigned) := scanSign cs
  let whole := unsigned.takeWhile Text.isDigit
  let (fraction, afterFraction) := scanFraction (unsigned.dropWhile Text.isDigit)
  if whole = [] ∧ fraction.getD [] = [] then none
  else
    let (exponent, rest) := scanExponent afterFraction
    some (⟨sign, whole, fraction, exponent⟩, rest)

/-! ## Value -/

/-- The power of ten that an exponent stands for. -/
def exponentValue : Option Exponent → Int
  | some e =>
    if e.sign = some '-' then -(Text.digitsValue e.digits : Int) else Text.digitsValue e.digits
  | none => 0

/-- The digits of a numeral as one natural number, without its point. -/
def coefficient (n : Numeral) : Nat := Text.digitsValue (n.whole ++ n.fraction.getD [])

/-- The power of ten that the coefficient counts. -/
def scale (n : Numeral) : Int :=
  exponentValue n.exponent - (n.fraction.getD []).length

/-- The double nearest to a numeral's value. -/
def toDouble (n : Numeral) : Double :=
  Double.ofDecimal (n.sign = some '-') n.coefficient n.scale

/-! ## Scanning loses nothing -/

theorem scanSign_append (cs : List Char) : (scanSign cs).1.toList ++ (scanSign cs).2 = cs := by
  cases cs with
  | nil => rfl
  | cons c rest => simp only [scanSign]; split <;> rfl

theorem scanExponent_append (cs : List Char) :
    exponentChars (scanExponent cs).1 ++ (scanExponent cs).2 = cs := by
  cases cs with
  | nil => rfl
  | cons mark rest =>
    simp only [scanExponent]
    split
    · simp only [exponentChars, List.cons_append, List.append_assoc,
        List.takeWhile_append_dropWhile, scanSign_append]
    · rfl

theorem scanFraction_append (cs : List Char) :
    fractionChars (scanFraction cs).1 ++ (scanFraction cs).2 = cs := by
  unfold scanFraction
  split
  · simp only [fractionChars, List.cons_append, List.takeWhile_append_dropWhile]
  · rfl

/-- A scanned numeral followed by the rest is the text. -/
theorem chars_append_rest {cs rest : List Char} {n : Numeral} (h : scan? cs = some (n, rest)) :
    n.chars ++ rest = cs := by
  simp only [scan?] at h
  split at h
  · simp at h
  · simp only [Option.some.injEq, Prod.mk.injEq] at h
    obtain ⟨rfl, rfl⟩ := h
    simp only [chars, List.append_assoc, scanExponent_append, scanFraction_append,
      List.takeWhile_append_dropWhile, scanSign_append]

end Numeral

end Reporting
