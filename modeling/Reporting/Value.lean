import Reporting.Keyed
import Reporting.Number
import Reporting.Text.Quoted
import Reporting.Text.Split

/-!
# Cell values and rows

A cell holds nothing, a truth value, a number or a text; lists and objects occur as operands of
filters and choices. A row is a keyed table of cells. The written form of a value (`printed`) is
what lists, objects and unusual keys show as text. An integer with too many digits has none, and
neither has a list or an object that it stands in.
-/

namespace Reporting

/-- A value of a cell or of an operand. -/
inductive Value
  | null
  | bool (b : Bool)
  | number (n : Number)
  | text (s : String)
  | list (items : List Value)
  | object (fields : List (String × Value))

namespace Value

instance : Inhabited Value := ⟨.null⟩

/-- An integer as a value. -/
def int (n : Int) : Value := .number (.int n)

/-- A double as a value. -/
def double (x : Double) : Value := .number (.double x)

/-! ## Equality -/

mutual

/-- Whether two values are the same. -/
def decEq : (a b : Value) → Decidable (a = b)
  | .null, b =>
    match b with
    | .null => isTrue rfl
    | .bool _ | .number _ | .text _ | .list _ | .object _ => isFalse nofun
  | .bool x, b =>
    match b with
    | .bool y => decidable_of_iff (x = y) ⟨congrArg _, Value.bool.inj⟩
    | .null | .number _ | .text _ | .list _ | .object _ => isFalse nofun
  | .number x, b =>
    match b with
    | .number y => decidable_of_iff (x = y) ⟨congrArg _, Value.number.inj⟩
    | .null | .bool _ | .text _ | .list _ | .object _ => isFalse nofun
  | .text x, b =>
    match b with
    | .text y => decidable_of_iff (x = y) ⟨congrArg _, Value.text.inj⟩
    | .null | .bool _ | .number _ | .list _ | .object _ => isFalse nofun
  | .list xs, b =>
    match b with
    | .list ys => @decidable_of_iff _ (xs = ys) ⟨congrArg _, Value.list.inj⟩ (decEqItems xs ys)
    | .null | .bool _ | .number _ | .text _ | .object _ => isFalse nofun
  | .object xs, b =>
    match b with
    | .object ys =>
      @decidable_of_iff _ (xs = ys) ⟨congrArg _, Value.object.inj⟩ (decEqFields xs ys)
    | .null | .bool _ | .number _ | .text _ | .list _ => isFalse nofun

/-- Whether two lists have the same items. -/
def decEqItems : (xs ys : List Value) → Decidable (xs = ys)
  | [], [] => isTrue rfl
  | [], _ :: _ | _ :: _, [] => isFalse nofun
  | x :: xs, y :: ys =>
    match decEq x y, decEqItems xs ys with
    | isTrue h, isTrue hs => isTrue (h ▸ hs ▸ rfl)
    | isFalse h, _ => isFalse fun e => h (List.cons.inj e).1
    | _, isFalse hs => isFalse fun e => hs (List.cons.inj e).2

/-- Whether two objects have the same fields. -/
def decEqFields : (xs ys : List (String × Value)) → Decidable (xs = ys)
  | [], [] => isTrue rfl
  | [], _ :: _ | _ :: _, [] => isFalse nofun
  | (key, x) :: xs, (other, y) :: ys =>
    match decEq x y, decEqFields xs ys with
    | isTrue h, isTrue hs =>
      decidable_of_iff (key = other)
        ⟨fun e => e ▸ h ▸ hs ▸ rfl, fun e => (Prod.mk.inj (List.cons.inj e).1).1⟩
    | isFalse h, _ => isFalse fun e => h (Prod.mk.inj (List.cons.inj e).1).2
    | _, isFalse hs => isFalse fun e => hs (List.cons.inj e).2

end

instance : DecidableEq Value := decEq

/-! ## The written form -/

/-- Doubles are written in positions from `0.0001` on and below `10 ^ 16`; other exponents have a
sign and at least two digits. -/
def doubleLayout : Double.Layout where
  positionsFrom := -4
  positionsBelow := 16
  exponentDigits := 2
  infinity := ['i', 'n', 'f']
  notANumber := ['n', 'a', 'n']

/-- The digits of an integer, with a minus sign in front of a negative one. -/
def intChars (n : Int) : List Char :=
  if n < 0 then '-' :: Nat.toDigits 10 n.natAbs else Nat.toDigits 10 n.natAbs

/-- The written form of a number. -/
def numberChars : Number → List Char
  | .int n => intChars n
  | .double x => doubleLayout.text x

/-- What stands between the items of a written list or object. -/
def itemSeparator : List Char := [',', ' ']

mutual

/-- The written form of a value inside a list or an object, where texts are quoted. -/
def nestedChars : Value → List Char
  | .null => ['N', 'o', 'n', 'e']
  | .bool true => ['T', 'r', 'u', 'e']
  | .bool false => ['F', 'a', 'l', 's', 'e']
  | .number n => numberChars n
  | .text s => Text.quoted s.toList
  | .list items => '[' :: Text.joined itemSeparator (itemChars items) ++ [']']
  | .object fields =>
    Char.ofNat 0x7B :: Text.joined itemSeparator (fieldChars fields) ++ [Char.ofNat 0x7D]

/-- The written forms of the items of a list. -/
def itemChars : List Value → List (List Char)
  | [] => []
  | item :: rest => nestedChars item :: itemChars rest

/-- The written forms of the fields of an object: a quoted key, a colon and the value. -/
def fieldChars : List (String × Value) → List (List Char)
  | [] => []
  | (key, value) :: rest =>
    (Text.quoted key.toList ++ ':' :: ' ' :: nestedChars value) :: fieldChars rest

end

/-- The written form of a value on its own, however long, where a text is itself. -/
def fullText : Value → String
  | .text s => s
  | value => String.ofList (nestedChars value)

/-! ## The limit of the written form -/

mutual

/-- Whether a value is short enough to be written: each integer in it has its digits limited. -/
def IsWritable : Value → Prop
  | .null | .bool _ | .number (.double _) | .text _ => True
  | .number (.int n) => n.natAbs < 10 ^ Text.digitLimit
  | .list items => ItemsWritable items
  | .object fields => FieldsWritable fields

/-- Whether the items of a list are short enough to be written. -/
def ItemsWritable : List Value → Prop
  | [] => True
  | item :: rest => IsWritable item ∧ ItemsWritable rest

/-- Whether the values of the fields of an object are short enough to be written. -/
def FieldsWritable : List (String × Value) → Prop
  | [] => True
  | (_, value) :: rest => IsWritable value ∧ FieldsWritable rest

end

mutual

/-- Decides whether a value is short enough to be written. -/
def decWritable : (value : Value) → Decidable value.IsWritable
  | .null | .bool _ | .number (.double _) | .text _ => isTrue trivial
  | .number (.int n) => inferInstanceAs (Decidable (n.natAbs < 10 ^ Text.digitLimit))
  | .list items => decItemsWritable items
  | .object fields => decFieldsWritable fields

/-- Decides whether the items of a list are short enough to be written. -/
def decItemsWritable : (items : List Value) → Decidable (ItemsWritable items)
  | [] => isTrue trivial
  | item :: rest =>
    @instDecidableAnd _ _ (decWritable item) (decItemsWritable rest)

/-- Decides whether the values of the fields of an object are short enough to be written. -/
def decFieldsWritable : (fields : List (String × Value)) → Decidable (FieldsWritable fields)
  | [] => isTrue trivial
  | (_, value) :: rest =>
    @instDecidableAnd _ _ (decWritable value) (decFieldsWritable rest)

end

instance (value : Value) : Decidable value.IsWritable := decWritable value

/-- The written form of a value on its own. -/
def printed (value : Value) : Outcome String :=
  if value.IsWritable then .ok value.fullText else .error .tooManyDigits

theorem printed_bind {α : Type} (value : Value) (f : String → α) :
    (do return f (← value.printed) : Outcome α) =
      if value.IsWritable then .ok (f value.fullText) else .error .tooManyDigits := by
  rw [printed]
  split <;> rfl

end Value

/-- A row: cells by field name, in the order of the fields. -/
abbrev Row := Keyed Value

/-- The cell of a field; a missing one is null. -/
def Keyed.cell (row : Row) (field : String) : Value := (row.get? field).getD .null

end Reporting
