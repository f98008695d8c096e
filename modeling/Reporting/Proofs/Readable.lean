import Mathlib.Algebra.Order.BigOperators.Group.List
import Reporting.Proofs.DoubleRange
import Reporting.Proofs.Groups

/-!
# Cells that can be read

A cell can be read in all parts of a run if it is nothing, a truth value, a number that fits or a
text without a null character (`Value.IsReadable`). Filters do not fail on rows of such cells unless
they cannot read their operands (`Filter.yields_keep`), and grouping makes such rows of them, unless
the integers of a column are too large all together (`yields_groupRows`).
-/

namespace Reporting

open Outcome

namespace Value

/-! ## Values -/

/-- The size of a cell as an integer; other cells have none. -/
def size : Value → Nat
  | .number n => n.size
  | _ => 0

/-- The items of a list; other values have none. -/
def items : Value → List Value
  | .list items => items
  | _ => []

/-- Whether a value is no integer that is too large for a double. -/
def Fits (value : Value) : Prop := value.size < Double.intLimit

instance (value : Value) : Decidable value.Fits := inferInstanceAs (Decidable (value.size < _))

theorem fits_of_size_eq_zero {value : Value} (h : value.size = 0) : value.Fits :=
  Nat.lt_of_le_of_lt (h.le.trans (Nat.zero_le _)) Double.pow_lt_intLimit

/-- Whether a value is a cell that every part of a run can read. -/
def IsReadable : Value → Prop
  | .null | .bool _ => True
  | .number n => n.Fits
  | .text s => Char.ofNat 0 ∉ s.toList
  | .list _ | .object _ => False

instance : (value : Value) → Decidable value.IsReadable
  | .null | .bool _ => isTrue trivial
  | .number n => inferInstanceAs (Decidable n.Fits)
  | .text s => inferInstanceAs (Decidable (Char.ofNat 0 ∉ s.toList))
  | .list _ | .object _ => isFalse id

theorem IsReadable.fits {value : Value} (h : value.IsReadable) : value.Fits := by
  cases value with
  | number n => exact h
  | null | bool | text | list | object => exact fits_of_size_eq_zero rfl

theorem IsReadable.normalized_eq {value : Value} (h : value.IsReadable) :
    value.normalized = value := by
  cases value with
  | list items => cases h
  | object fields => cases h
  | _ => rfl

theorem size_textToNumber (s : String) : (textToNumber s).size = 0 := by
  unfold textToNumber
  split
  · split <;> rfl
  · rfl

/-- A value that fits counts as a number that is no larger. -/
theorem Fits.yields_toNumber {value : Value} (h : value.Fits) :
    value.toNumber.Yields fun n => n.size ≤ value.size := by
  cases value with
  | number n =>
    cases n with
    | int n => exact (Number.yields_intToDouble_iff.2 h).map fun _ _ => Nat.le_refl _
    | double x =>
      refine yields_ok ?_
      split <;> exact Nat.le_refl _
  | text s => exact yields_ok (size_textToNumber s).le
  | null | bool | list | object => exact yields_ok (Nat.le_refl _)

theorem Fits.yields_number {value : Value} (h : value.Fits) : value.toNumber.Yields Number.Fits :=
  h.yields_toNumber.imp fun _ hn => Nat.lt_of_le_of_lt hn h

/-- What a cell counts as fits, if it counts as a number at all. -/
theorem fits_of_toNumber {value : Value} {n : Number} (h : value.toNumber = .ok n) : n.Fits := by
  have hvalue : value.Fits := by
    cases value with
    | number m =>
      cases m with
      | int m =>
        obtain ⟨x, hx, -⟩ := bind_eq_ok.1 h
        exact Number.yields_intToDouble_iff.1 ⟨x, hx, trivial⟩
      | double x => exact fits_of_size_eq_zero rfl
    | null | bool | text | list | object => exact fits_of_size_eq_zero rfl
  obtain ⟨m, hm, hfits⟩ := hvalue.yields_number
  exact Except.ok.inj (h.symm.trans hm) ▸ hfits

/-- Integers that fit have fewer digits than can be written. -/
theorem intLimit_le_writable : Double.intLimit ≤ 10 ^ Text.digitLimit := by decide +kernel

theorem IsReadable.isWritable {value : Value} (h : value.IsReadable) : value.IsWritable := by
  cases value with
  | number n =>
    cases n with
    | int n => exact Nat.lt_of_lt_of_le h intLimit_le_writable
    | double x => trivial
  | null | bool | text => trivial
  | list items => cases h
  | object fields => cases h

theorem IsWritable.yields_toText {value : Value} (h : value.IsWritable) :
    value.toText.Yields (· = value.plainText) :=
  ⟨_, if_pos h, rfl⟩

theorem IsWritable.yields_lowerText {value : Value} (h : value.IsWritable) :
    value.lowerText.Yields fun _ => True :=
  h.yields_toText.map fun _ _ => trivial

theorem IsReadable.yields_toText {value : Value} (h : value.IsReadable) :
    value.toText.Yields (· = value.plainText) :=
  h.isWritable.yields_toText

theorem HasScalar.yields_toComparable {value : Value} (h : value.HasScalar) :
    value.toComparable.Yields (· = value.plainComparable) :=
  ⟨_, value.toComparable_eq.trans (if_pos h), rfl⟩

theorem IsReadable.hasScalar {value : Value} (h : value.IsReadable) : value.HasScalar :=
  .of_isWritable h.isWritable

end Value

namespace Filter

/-! ## Filters -/

/-- Whether an operator can read an operand: comparisons with integers that are too large for a
double cannot, nor searches for integers that are too long to be written, nor equalities with lists
and objects in which such an integer stands. -/
def Operator.CanRead (operand : Value) : Operator → Prop
  | .equal | .unequal => operand.HasScalar
  | .contains => operand.IsWritable
  | .oneOf => ∀ item ∈ operand.items, item.IsWritable
  | .greater | .atLeast | .less | .atMost => operand.Fits
  | .between => ∀ bound ∈ operand.items.take 2, bound.Fits

instance (operand : Value) : (operator : Operator) → Decidable (operator.CanRead operand)
  | .equal | .unequal => inferInstanceAs (Decidable operand.HasScalar)
  | .contains => inferInstanceAs (Decidable operand.IsWritable)
  | .oneOf => inferInstanceAs (Decidable (∀ item ∈ operand.items, item.IsWritable))
  | .greater | .atLeast | .less | .atMost => inferInstanceAs (Decidable operand.Fits)
  | .between => inferInstanceAs (Decidable (∀ bound ∈ operand.items.take 2, bound.Fits))

/-- Whether a filter can read its operand; one of an unknown operator does not. -/
def Fits (f : Filter) : Prop :=
  ∀ operator ∈ Operator.ofName? f.operator, operator.CanRead f.value

instance (f : Filter) : Decidable f.Fits :=
  inferInstanceAs (Decidable (∀ operator ∈ Operator.ofName? f.operator, operator.CanRead f.value))

theorem Operator.CanRead.yields_holds {cell operand : Value} {operator : Operator}
    (h : operator.CanRead operand) (hcell : cell.IsReadable) :
    (operator.holds cell operand).Yields fun _ => True := by
  have hlower := hcell.isWritable.yields_lowerText
  have hequal : operand.HasScalar → (isEqual cell operand).Yields fun _ => True :=
    fun hoperand => hcell.hasScalar.yields_toComparable.bind fun _ _ =>
      hoperand.yields_toComparable.map fun _ _ => trivial
  have hcompare : ∀ holds, operand.Fits →
      (compareNumbers holds cell operand).Yields fun _ => True := fun holds hoperand =>
    hcell.fits.yields_toNumber.bind fun _ _ => hoperand.yields_toNumber.map fun _ _ => trivial
  cases operator with
  | equal => exact hequal h
  | unequal => exact (hequal h).map fun _ _ => trivial
  | greater | atLeast | less | atMost => exact hcompare _ h
  | contains =>
    have hoperand : operand.IsWritable := h
    exact hoperand.yields_lowerText.bind fun _ _ => hlower.map fun _ _ => trivial
  | oneOf =>
    have hitems : operand.toItems.Yields fun _ => True := by
      cases operand with
      | list items =>
        have htexts : ∀ item ∈ items, item.toText.Yields fun _ => True := fun item hitem =>
          (h item hitem).yields_toText.imp fun _ _ => trivial
        exact (yields_mapM htexts).imp fun _ _ => trivial
      | null | bool | number | text | object => exact yields_ok trivial
    exact hitems.bind fun _ _ => hlower.map fun _ _ => trivial
  | between =>
    cases operand with
    | list items =>
      match items, h with
      | [], _ | [_], _ => exact yields_ok trivial
      | low :: high :: rest, h =>
        have hlow : low.Fits := h low (by simp [Value.items])
        have hhigh : high.Fits := h high (by simp [Value.items])
        refine hcell.fits.yields_toNumber.bind fun n _ => hlow.yields_toNumber.bind fun m _ => ?_
        split
        · exact hhigh.yields_toNumber.map fun _ _ => trivial
        · exact yields_pure trivial
    | null | bool | number | text | object => exact yields_ok trivial

end Filter

/-! ## Rows -/

/-- Whether every cell of a row can be read. -/
def Keyed.IsReadable (row : Row) : Prop :=
  ∀ field value, row.get? field = some value → value.IsReadable

namespace Keyed.IsReadable

variable {row : Row}

theorem empty : Keyed.IsReadable .empty := fun _ _ h => by simp at h

theorem cell (h : row.IsReadable) (field : String) : (row.cell field).IsReadable := by
  rw [Keyed.cell]
  cases hvalue : row.get? field with
  | none => trivial
  | some value => exact h field value hvalue

theorem put (h : row.IsReadable) {field : String} {value : Value} (hvalue : value.IsReadable) :
    (row.put field value).IsReadable := by
  intro other found hfound
  rw [get?_put] at hfound
  split at hfound
  · exact Option.some.inj hfound ▸ hvalue
  · exact h other found hfound

end Keyed.IsReadable

/-- The size of a column: that of its integers all together. -/
def columnSize (field : String) (rows : List Row) : Nat :=
  (rows.map fun row => (row.cell field).size).sum

namespace Filter

variable {filters : List Filter}

theorem yields_accepts {f : Filter} (hf : f.Fits) {row : Row} (hrow : row.IsReadable) :
    (f.accepts row).Yields fun _ => True := by
  rw [accepts]
  split
  · next operator hoperator =>
    exact (hf operator hoperator).yields_holds (hrow.cell f.field)
  · exact yields_ok trivial

theorem yields_acceptsAll (hfilters : ∀ f ∈ filters, f.Fits) {row : Row} (hrow : row.IsReadable) :
    (acceptsAll filters row).Yields fun _ => True := by
  induction filters with
  | nil => exact yields_ok trivial
  | cons f rest ih =>
    rw [acceptsAll]
    refine (yields_accepts (hfilters f List.mem_cons_self) hrow).bind fun b _ => ?_
    split
    · exact ih fun g hg => hfilters g (List.mem_cons_of_mem f hg)
    · exact yields_pure trivial

/-- **Filters do not fail on rows that can be read.** -/
theorem yields_keep (hfilters : ∀ f ∈ filters, f.Fits) {rows : List Row}
    (hrows : ∀ row ∈ rows, row.IsReadable) :
    (keep filters rows).Yields fun kept => kept.Sublist rows := by
  induction rows with
  | nil => exact yields_ok .slnil
  | cons row rest ih =>
    have hrest := ih fun r hr => hrows r (List.mem_cons_of_mem row hr)
    rw [keep]
    refine (yields_acceptsAll hfilters (hrows row List.mem_cons_self)).bind fun b _ => ?_
    split
    · exact hrest.map fun kept hkept => hkept.cons_cons row
    · exact hrest.imp fun kept hkept => hkept.cons row

end Filter

/-! ## Columns of numbers -/

/-- The numbers of a column are as many as its rows and no larger all together. -/
theorem yields_numbers {rows : List Row} (hrows : ∀ row ∈ rows, row.IsReadable) (field : String) :
    (rows.mapM fun row : Row => (row.cell field).toNumber).Yields fun numbers =>
      numbers.length = rows.length ∧ (numbers.map Number.size).sum ≤ columnSize field rows := by
  have hcells : ∀ row ∈ rows, (row.cell field).toNumber.Yields fun n =>
      n.size ≤ (row.cell field).size := fun row hrow =>
    ((hrows row hrow).cell field).fits.yields_toNumber
  refine (yields_mapM hcells).imp fun numbers hnumbers => ?_
  refine ⟨hnumbers.length_eq.symm, List.Forall₂.sum_le_sum ?_⟩
  exact List.forall₂_map_left_iff.2 (List.forall₂_map_right_iff.2 hnumbers.flip)

theorem columnSize_eq_zero {rows : List Row} {field : String}
    (h : ∀ row ∈ rows, field ∉ row.keys) : columnSize field rows = 0 := by
  rw [columnSize, List.sum_eq_zero_iff]
  intro size hsize
  obtain ⟨row, hrow, rfl⟩ := List.mem_map.1 hsize
  rw [Keyed.cell]
  cases hvalue : row.get? field with
  | none => rfl
  | some value => exact absurd (Keyed.mem_keys.2 ⟨value, hvalue⟩) (h row hrow)

/-- Whether the integers of each column fit all together. -/
def ColumnsFit (rows : List Row) : Prop :=
  ∀ row ∈ rows, ∀ field ∈ row.keys, columnSize field rows < Double.intLimit

instance (rows : List Row) : Decidable (ColumnsFit rows) :=
  inferInstanceAs (Decidable (∀ row ∈ rows, ∀ field ∈ row.keys, _ < _))

theorem ColumnsFit.columnSize_lt {rows : List Row} (h : ColumnsFit rows) (field : String) :
    columnSize field rows < Double.intLimit := by
  by_cases hfield : ∃ row ∈ rows, field ∈ row.keys
  · obtain ⟨row, hrow, hkey⟩ := hfield
    exact h row hrow field hkey
  · have hzero := columnSize_eq_zero fun row hrow hkey => hfield ⟨row, hrow, hkey⟩
    exact Nat.lt_of_le_of_lt (hzero.le.trans (Nat.zero_le _)) Double.pow_lt_intLimit

/-! ## Grouping -/

namespace Aggregation

/-- A fold that keeps one of two items ends with one of them. -/
theorem foldl_mem_of_choice {α : Type} {choose : α → α → α}
    (h : ∀ a b, choose a b = a ∨ choose a b = b) (first : α) (rest : List α) :
    rest.foldl choose first ∈ first :: rest := by
  induction rest generalizing first with
  | nil => exact List.mem_singleton_self first
  | cons next rest ih =>
    rw [List.foldl_cons]
    obtain hfirst | hnext := h first next
    · rw [hfirst]
      obtain heq | hrest := List.mem_cons.1 (ih first)
      · exact List.mem_cons.2 (.inl heq)
      · exact List.mem_cons_of_mem _ (List.mem_cons_of_mem _ hrest)
    · rw [hnext]
      exact List.mem_cons_of_mem _ (ih next)

theorem length_distinct_le (numbers : List Number) :
    (Number.distinct numbers).length ≤ numbers.length := by
  induction numbers with
  | nil => exact Nat.le_refl _
  | cons n rest ih =>
    rw [Number.distinct, List.length_cons, List.length_cons]
    exact Nat.succ_le_succ ((List.length_filter_le _ _).trans ih)

/-- An aggregate of numbers that fit all together fits. -/
theorem yields_apply {numbers : List Number} (hlength : numbers.length < 2 ^ 63)
    (hsum : (numbers.map Number.size).sum < Double.intLimit) (a : Aggregation) :
    (a.apply numbers).Yields Number.Fits := by
  have hcount : ∀ count ≤ numbers.length, (Number.int count).Fits := fun count hle =>
    Number.fits_natCast (by omega)
  have hchoice : ∀ {c : Bool} {m n : Number}, (if c then m else n) = n ∨ (if c then m else n) = m :=
    fun {c} => by cases c <;> simp
  cases a with
  | count => exact yields_ok (hcount _ (Nat.le_refl _))
  | distinctCount => exact yields_ok (hcount _ (length_distinct_le numbers))
  | sum => exact Number.yields_sum hsum
  | average =>
    rw [apply]
    split
    · exact yields_ok (Number.fits_of_size_lt (Nat.two_pow_pos 200))
    · next hne =>
      have hzero : (Number.int numbers.length).isZero = false := by
        rw [List.isEmpty_iff] at hne
        simpa [Number.isZero] using hne
      refine (Number.yields_sum hsum).bind fun total htotal => ?_
      refine (Number.yields_div htotal (hcount _ (Nat.le_refl _)) hzero).map fun x _ => ?_
      exact Number.fits_double x
  | minimum =>
    cases numbers with
    | nil => exact yields_ok (Number.fits_of_size_lt (Nat.two_pow_pos 200))
    | cons first rest =>
      exact yields_ok (Number.fits_of_mem hsum (foldl_mem_of_choice (fun _ _ => hchoice) _ _))
  | maximum =>
    cases numbers with
    | nil => exact yields_ok (Number.fits_of_size_lt (Nat.two_pow_pos 200))
    | cons first rest =>
      exact yields_ok (Number.fits_of_mem hsum (foldl_mem_of_choice (fun _ _ => hchoice) _ _))

end Aggregation

namespace Grouping

/-- The rows of a group are rows of the table, in their order. -/
theorem sublist_of_mem_groups {α : Type} {keyed : List (String × α)} {members : List α}
    (h : members ∈ groups keyed) : members.Sublist (keyed.map Prod.snd) := by
  obtain ⟨key, -, rfl⟩ := List.mem_map.1 h
  exact List.filter_sublist.map Prod.snd

theorem length_groups_le {α : Type} (keyed : List (String × α)) :
    (groups keyed).length ≤ keyed.length := by
  rw [groups, List.length_map]
  exact (firsts_sublist _).length_le.trans (List.length_map _).le

theorem yields_key (dimensions : List String) {row : Row} (hrow : row.IsReadable) :
    (key dimensions row).Yields fun _ => True := by
  have htext : ∀ field ∈ dimensions, (dimensionText row field).Yields fun _ => True := by
    intro field _
    rw [dimensionText_eq]
    exact (hrow.cell field).yields_toText.imp fun _ _ => trivial
  exact (yields_mapM htext).map fun _ _ => trivial

theorem yields_dimensionCells (dimensions : List String) {first : Row}
    (hfirst : first.IsReadable) :
    (dimensionCells dimensions first).Yields Keyed.IsReadable := by
  refine yields_foldlM Keyed.IsReadable.empty fun row hrow field _ => ?_
  have hcell := hfirst.cell field
  have hnormal : (first.cell field).normalize.Yields Value.IsReadable :=
    ⟨_, Value.normalize_eq_ok.2 ⟨hcell.hasScalar, rfl⟩, hcell.normalized_eq.symm ▸ hcell⟩
  exact hnormal.map fun value hvalue => hrow.put hvalue

section Members

variable {members : List Row} (hmembers : ∀ row ∈ members, row.IsReadable)
  (hlength : members.length < 2 ^ 63)
  (hcolumns : ∀ field, columnSize field members < Double.intLimit)

include hmembers hlength hcolumns

theorem yields_measureValue (measure : Measure) :
    (measureValue members measure).Yields Number.Fits := by
  refine (yields_numbers hmembers measure.field).bind fun numbers hnumbers => ?_
  obtain ⟨hcount, hsum⟩ := hnumbers
  refine (Aggregation.yields_apply (hcount ▸ hlength)
    (Nat.lt_of_le_of_lt hsum (hcolumns measure.field)) _).map fun n hn => ?_
  exact Number.fits_integral hn

theorem yields_groupRow (view : View) : (groupRow view members).Yields Keyed.IsReadable := by
  have hfirst : (members.headD .empty).IsReadable := by
    cases members with
    | nil => exact Keyed.IsReadable.empty
    | cons first rest => exact hmembers first List.mem_cons_self
  refine (yields_dimensionCells view.dimensions hfirst).bind fun start hstart => ?_
  refine yields_foldlM hstart fun row hrow measure _ => ?_
  exact (yields_measureValue hmembers hlength hcolumns measure).map fun n hn => hrow.put hn

end Members

end Grouping

theorem columnSize_mono {field : String} {rows others : List Row} (h : rows.Sublist others) :
    columnSize field rows ≤ columnSize field others :=
  (h.map _).sum_le_sum fun _ _ => Nat.zero_le _

/-- **Rows that can be read are grouped to rows that can be read**, as long as the integers of no
column are too large all together. -/
theorem yields_groupRows {rows : List Row} (hrows : ∀ row ∈ rows, row.IsReadable)
    (hlength : rows.length < 2 ^ 63)
    (hcolumns : ∀ field, columnSize field rows < Double.intLimit) (view : View) :
    (groupRows view rows).Yields fun grouped =>
      (∀ row ∈ grouped, row.IsReadable) ∧ grouped.length ≤ rows.length := by
  have hkeys : ∀ row ∈ rows, (Grouping.key view.dimensions row).Yields fun _ => True :=
    fun row hrow => Grouping.yields_key view.dimensions (hrows row hrow)
  refine (yields_mapM hkeys).bind fun keys hforall => ?_
  have hkeyed : ((keys.zip rows).map Prod.snd) = rows :=
    List.map_snd_zip hforall.length_eq.le
  have hgroups : ∀ members ∈ Grouping.groups (keys.zip rows),
      (Grouping.groupRow view members).Yields Keyed.IsReadable := by
    intro members hmembers
    have hsub := hkeyed ▸ Grouping.sublist_of_mem_groups hmembers
    exact Grouping.yields_groupRow (fun row hrow => hrows row (hsub.subset hrow))
      (hsub.length_le.trans_lt hlength)
      (fun field => (columnSize_mono hsub).trans_lt (hcolumns field)) view
  refine (yields_mapM hgroups).imp fun grouped hgrouped => ⟨fun row hrow => ?_, ?_⟩
  · obtain ⟨_, _, hreadable⟩ := exists_of_mem_right hgrouped hrow
    exact hreadable
  · rw [← hgrouped.length_eq]
    refine (Grouping.length_groups_le _).trans ?_
    rw [List.length_zip]
    exact Nat.min_le_right _ _

/-! ## Plain cells -/

/-- Whether a cell is plain data: nothing, a truth value, a finite double, an integer of 64 bits,
signed or not, or a text without a null character. -/
def Value.IsPlain : Value → Prop
  | .null | .bool _ => True
  | .number (.int n) => -2 ^ 63 ≤ n ∧ n < 2 ^ 64
  | .number (.double x) => x.isFinite = true
  | .text s => Char.ofNat 0 ∉ s.toList
  | .list _ | .object _ => False

instance : (value : Value) → Decidable value.IsPlain
  | .null | .bool _ => isTrue trivial
  | .number (.int n) => inferInstanceAs (Decidable (-2 ^ 63 ≤ n ∧ n < 2 ^ 64))
  | .number (.double x) => inferInstanceAs (Decidable (x.isFinite = true))
  | .text s => inferInstanceAs (Decidable (Char.ofNat 0 ∉ s.toList))
  | .list _ | .object _ => isFalse id

/-- Whether every cell of a row is plain data. -/
def Keyed.IsPlain (row : Row) : Prop := ∀ value ∈ row.values, value.IsPlain

instance (row : Row) : Decidable row.IsPlain :=
  inferInstanceAs (Decidable (∀ value ∈ row.values, value.IsPlain))

theorem Value.IsPlain.size_lt {value : Value} (h : value.IsPlain) : value.size < 2 ^ 64 := by
  cases value with
  | number n =>
    cases n with
    | int n =>
      obtain ⟨hlow, hhigh⟩ := h
      simp only [size, Number.size_int]
      omega
    | double x => exact Nat.two_pow_pos 64
  | _ => exact Nat.two_pow_pos 64

theorem Value.IsPlain.isReadable {value : Value} (h : value.IsPlain) : value.IsReadable := by
  have hsize := h.size_lt
  cases value with
  | null => trivial
  | bool b => trivial
  | number n => exact Number.fits_of_size_lt (hsize.trans (by decide))
  | text s => exact h
  | list items => cases h
  | object fields => cases h

theorem Keyed.IsPlain.isReadable {row : Row} (h : row.IsPlain) : row.IsReadable :=
  fun field value hvalue => (h value (Keyed.mem_values.2 ⟨field, hvalue⟩)).isReadable

/-- The integers of plain cells never are too large all together: a table has fewer rows than
`2 ^ 63`. -/
theorem columnSize_lt_of_isPlain {rows : List Row} (hlength : rows.length < 2 ^ 63)
    (hrows : ∀ row ∈ rows, row.IsPlain) (field : String) :
    columnSize field rows < Double.intLimit := by
  have hcells : ∀ size ∈ rows.map fun row => (row.cell field).size, size ≤ 2 ^ 64 := by
    intro size hsize
    obtain ⟨row, hrow, rfl⟩ := List.mem_map.1 hsize
    rw [Keyed.cell]
    cases hvalue : row.get? field with
    | none => exact Nat.zero_le _
    | some value => exact (hrows row hrow value (Keyed.mem_values.2 ⟨field, hvalue⟩)).size_lt.le
  have hsum : columnSize field rows ≤ rows.length * 2 ^ 64 :=
    (List.sum_le_card_nsmul _ _ hcells).trans_eq (by rw [List.length_map]; rfl)
  refine Nat.lt_of_le_of_lt hsum (Nat.lt_of_le_of_lt ?_ Double.pow_lt_intLimit)
  exact (Nat.mul_le_mul_right _ hlength.le).trans (by decide)

end Reporting
