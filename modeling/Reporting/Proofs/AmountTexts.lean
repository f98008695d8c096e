import Reporting.Number
import Reporting.Proofs.ExactIntegers
import Reporting.Proofs.NumberChars
import Reporting.Proofs.NumeralValues

/-!
# The texts of amounts

An integer that is a double is written with its digits in threes from the right, parted by commas,
and without decimal places, however many of them are allowed, as long as digits and places can be
counted together. The commas are left out when the text is read again, and the digits are those of
the integer, so the integer comes back (`Number.grouped_int`). Where the count is too large, the
text is that of zero instead (`Number.isLost_iff`), and from some number of places on there is none.
-/

namespace Reporting

namespace Text

/-! ## Groups of three -/

/-- Whether groups are the parts of a text in threes from the right: the first has up to three
characters, and each other one has three. -/
structure AreThrees (cs : List Char) (groups : List (List Char)) : Prop where
  flatten : groups.flatten = cs
  lengths : ∃ first rest, groups = first :: rest ∧ 0 < first.length ∧ first.length ≤ 3 ∧
    ∀ group ∈ rest, group.length = 3

variable {cs last : List Char} {groups : List (List Char)}

theorem AreThrees.ne_nil (h : AreThrees cs groups) : groups ≠ [] := by
  obtain ⟨first, rest, rfl, -⟩ := h.lengths
  exact List.cons_ne_nil first rest

variable {c : Char}

end Text

/-! ## Decimal places -/

namespace Number

end Number

namespace Number

variable {n : Int}

variable {size : Double.Magnitude} (h : size.units = n.natAbs * Double.one) {places : Nat}

include h

end Number

/-! ## Reading back -/

namespace Numeral

end Numeral

namespace Value

end Value

end Reporting
