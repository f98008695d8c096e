import Mathlib.Data.List.Induction
import Mathlib.Data.List.Infix
import Reporting.Proofs.Columns
import Reporting.Proofs.NullCharacters
import Reporting.Proofs.NumberChars
import Reporting.Proofs.Readable

/-!
# Tables that are completed

A calculation does not fail on rows that can be read, if its operands and the integers that it forms
fit (`Calculation.Rule.Fits`), and it leaves rows that can be read (`Calculation.yields_apply`).
Such rows can always be sorted (`SortRule.yields_sortRows`), so a table is completed where this
holds of all its calculations in turn, and of the columns in the end (`Table.yields_build`).
-/

namespace Reporting

open Outcome

/-! ## Expressions -/

namespace Expression

/-- Whether every total on the way through an expression fits. -/
def Fits (context : Keyed Number) (expression : String) : Prop :=
  ∀ front ∈ (words expression).inits, ∀ reached,
    front.foldlM (Reduction.read context) .start = .ok reached → reached.total.Fits

instance (context : Keyed Number) (expression : String) : Decidable (Fits context expression) :=
  inferInstanceAs (Decidable (∀ front ∈ (words expression).inits, ∀ reached,
    front.foldlM (Reduction.read context) .start = .ok reached → reached.total.Fits))

variable {context : Keyed Number} (hcontext : ∀ name n, context.get? name = some n → n.Fits)

theorem Operator.yields_combine {total operand : Number} (htotal : total.Fits)
    (hoperand : operand.Fits) (operator : Operator) :
    (operator.combine total operand).Yields fun _ => True := by
  match operator with
  | .plus => exact (Number.yields_add htotal hoperand).imp fun _ _ => trivial
  | .minus => exact (Number.yields_sub htotal hoperand).imp fun _ _ => trivial
  | .times => exact (Number.yields_mul htotal hoperand).imp fun _ _ => trivial
  | .over =>
    rw [combine]
    split
    · exact yields_ok trivial
    · next hzero =>
      exact (Number.yields_div htotal hoperand (Bool.eq_false_of_not_eq_true hzero)).map
        fun _ _ => trivial

include hcontext

theorem fits_operandValue (word : String) : (operandValue context word).Fits := by
  rw [operandValue]
  cases hword : context.get? word with
  | none => exact Number.fits_of_size_lt (Value.size_textToNumber word ▸ Nat.two_pow_pos 200)
  | some n => exact hcontext word n hword

theorem yields_read {r : Reduction} (hr : r.total.Fits) (word : String) :
    (r.read context word).Yields fun _ => True := by
  rw [Reduction.read]
  split
  · exact yields_ok trivial
  · exact (Operator.yields_combine hr (fits_operandValue hcontext word) r.operator).map
      fun _ _ => trivial

/-- An expression whose totals fit has a value that fits. -/
theorem yields_evaluate {expression : String} (h : Fits context expression) :
    (evaluate context expression).Yields Number.Fits := by
  have hfold : ∀ front, front <+: words expression →
      (front.foldlM (Reduction.read context) .start).Yields fun r => r.total.Fits := by
    intro front
    induction front using List.reverseRecOn with
    | nil =>
      intro hprefix
      exact yields_pure (h [] ((List.mem_inits _ _).2 hprefix) .start rfl)
    | append_singleton front word ih =>
      intro hprefix
      have hread : ((front ++ [word]).foldlM (Reduction.read context) .start).Yields
          fun _ => True := by
        rw [List.foldlM_append]
        refine (ih ((List.prefix_append front [word]).trans hprefix)).bind fun r hr => ?_
        rw [List.foldlM_cons]
        exact (yields_read hcontext hr word).bind fun _ _ => yields_pure trivial
      exact (hread.and (h _ ((List.mem_inits _ _).2 hprefix))).imp fun r hr => hr.2
  exact (hfold _ (List.prefix_refl _)).map fun r hr => hr

end Expression

/-! ## Calculations -/

namespace Series

theorem ranks_le (xs : List Double) : ∀ rank ∈ ranks xs, rank ≤ 2 * xs.length := by
  have hfrom : ∀ (earlier xs : List Double), ∀ rank ∈ ranksFrom earlier xs,
      rank ≤ 2 * (earlier.length + xs.length) := by
    intro earlier xs
    induction xs generalizing earlier with
    | nil => simp [ranksFrom]
    | cons x rest ih =>
      intro rank hrank
      obtain rfl | hrest := List.mem_cons.1 hrank
      · have hgreater := List.length_filter_le (fun y => Double.compare? x y = some .lt)
          (earlier ++ rest)
        have hequal := List.length_filter_le (fun y => Double.compare? x y = some .eq) earlier
        rw [List.length_append] at hgreater
        rw [rankOf, countWhere, countWhere, List.length_cons]
        omega
      · have hle := ih (earlier ++ [x]) rank hrest
        rw [List.length_append, List.length_singleton] at hle
        rw [List.length_cons]
        omega
  intro rank hrank
  simpa using hfrom [] xs rank hrank

theorem yields_ofField {rows : List Row} (hrows : ∀ row ∈ rows, row.IsReadable) (field : String) :
    (ofField field rows).Yields fun xs => xs.length = rows.length := by
  have hcell : ∀ row ∈ rows, (do (← (row.cell field).toNumber).toDouble : Outcome Double).Yields
      fun _ => True := fun row hrow =>
    ((hrows row hrow).cell field).fits.yields_number.bind fun _ hn => Number.yields_toDouble hn
  exact (yields_mapM hcell).imp fun xs hxs => hxs.length_eq.symm

end Series

namespace Calculation

/-- Whether the operands of a rule fit, and the integers that it forms in rows. A rolling window has
at most `largestWindow` rows. -/
def Rule.Fits (rows : List Row) : Rule → Prop
  | .arithmetic expression => ∀ row ∈ rows, ∀ numbers, context row = .ok numbers →
      Expression.Fits numbers expression
  | .variance _ minuend subtrahend => ∀ row ∈ rows, ∀ m, (row.cell minuend).toNumber = .ok m →
      ∀ n, (row.cell subtrahend).toNumber = .ok n → ∀ delta, m.sub n = .ok delta → delta.Fits
  | .rolling _ window => window.Fits ∧ ∀ size, windowSize window = .ok size → size ≤ largestWindow
  | .choice condition yes no => condition.Fits ∧ ∀ row ∈ rows, ∀ accepted,
      condition.accepts row = .ok accepted →
        (if accepted then yes else no).HasScalar ∧
          (if accepted then yes else no).normalized.IsReadable
  | .change _ _ | .yearToDate _ | .rank _ | .unsupported _ => True

instance (rows : List Row) (rule : Rule) : Decidable (rule.Fits rows) := by
  unfold Rule.Fits
  split <;> infer_instance

theorem yields_context {row : Row} (hrow : row.IsReadable) :
    (context row).Yields fun numbers => ∀ name n, numbers.get? name = some n → n.Fits := by
  have hentries : ∀ entry ∈ row.entries,
      (do return (entry.1, ← entry.2.toNumber) : Outcome (String × Number)).Yields
        fun read => read.2.Fits := by
    intro entry hentry
    have hcell := hrow entry.1 entry.2 (Keyed.get?_eq_some_iff.2 hentry)
    exact hcell.fits.yields_number.map fun n hn => hn
  refine (yields_mapM hentries).map fun entries hfits name n hn => ?_
  obtain ⟨_, _, hfit⟩ := exists_of_mem_right hfits (Keyed.mem_of_get?_ofList hn)
  exact hfit

theorem yields_windowSize {window : Value} (h : window.Fits) :
    (windowSize window).Yields fun _ => True := by
  unfold windowSize
  split
  · exact yields_ok trivial
  · refine h.yields_toNumber.bind fun n _ => ?_
    split <;> exact yields_pure trivial

theorem yields_varianceOf (percentage : Bool) {m n : Number} (hm : m.Fits) (hn : n.Fits)
    (hdelta : ∀ delta, m.sub n = .ok delta → delta.Fits) :
    (varianceOf percentage m n).Yields Number.Fits := by
  have hhundred : (Number.int 100).Fits := Number.fits_of_size_lt (by decide)
  refine ((Number.yields_sub hm hn).and hdelta).bind fun delta hfits => ?_
  split
  · split
    · exact yields_pure (Number.fits_of_size_lt (Nat.two_pow_pos 200))
    · next hzero =>
      refine (Number.yields_div hfits.2 hn (Bool.eq_false_of_not_eq_true hzero)).bind
        fun share _ => ?_
      refine (Number.yields_mul (Number.fits_double share) hhundred).imp fun r hr => ?_
      rw [Number.size_double, Nat.zero_mul, Nat.le_zero] at hr
      exact Number.fits_of_size_lt (hr ▸ Nat.two_pow_pos 200)
  · exact yields_pure hfits.2

section Rows

variable {rows : List Row} (hrows : ∀ row ∈ rows, row.IsReadable)

theorem isReadable_doubleCell (x : Double) : (doubleCell x).IsReadable :=
  Number.fits_integral (Number.fits_double x)

include hrows

/-- A rule whose operands and integers fit has values that can be read. -/
theorem Rule.Fits.yields_values? (hlength : rows.length < 2 ^ 63) {rule : Rule}
    (h : rule.Fits rows) : (values? rule rows).Yields fun values => ∀ cells, values = some cells →
      ∀ value ∈ cells, value.IsReadable := by
  have hseries : ∀ field (f : List Double → List Double),
      (do return some ((f (← Series.ofField field rows)).map doubleCell) :
        Outcome (Option (List Value))).Yields fun values => ∀ cells, values = some cells →
          ∀ value ∈ cells, value.IsReadable := by
    intro field f
    refine (Series.yields_ofField hrows field).map ?_
    rintro xs - cells ⟨⟩ value hvalue
    obtain ⟨x, -, rfl⟩ := List.mem_map.1 hvalue
    exact isReadable_doubleCell x
  have hcells : ∀ {f : Row → Outcome Value},
      (∀ row ∈ rows, (f row).Yields Value.IsReadable) →
      (do return some (← rows.mapM f) : Outcome (Option (List Value))).Yields
        fun values => ∀ cells, values = some cells → ∀ value ∈ cells, value.IsReadable := by
    intro f hf
    refine (yields_mapM hf).map ?_
    rintro values hvalues cells ⟨⟩ value hvalue
    obtain ⟨_, _, hreadable⟩ := exists_of_mem_right hvalues hvalue
    exact hreadable
  cases rule with
  | arithmetic expression =>
    refine hcells fun row hrow => ?_
    refine ((yields_context (hrows row hrow)).and (h row hrow)).bind fun numbers hnumbers => ?_
    refine (Expression.yields_evaluate hnumbers.1 hnumbers.2).map fun n hn => ?_
    exact Number.fits_integral hn
  | variance percentage minuend subtrahend =>
    refine hcells fun row hrow => ?_
    have hbase := ((hrows row hrow).cell subtrahend).fits.yields_number.with_eq
    have hcell := ((hrows row hrow).cell minuend).fits.yields_number.with_eq
    refine hbase.bind fun n hn => hcell.bind fun m hm => ?_
    have hdelta := h row hrow m hm.2 n hn.2
    exact (yields_varianceOf percentage hm.1 hn.1 hdelta).map fun r hr => Number.fits_integral hr
  | change period field => exact hseries field Series.changes
  | yearToDate field => exact hseries field Series.runningTotals
  | rolling field window =>
    obtain ⟨hwindow, hlargest⟩ := h
    have hvalues : (rollingValues field window rows).Yields fun _ => True := by
      refine ((yields_windowSize hwindow).and hlargest).bind fun size hsize => ?_
      refine (Series.yields_ofField hrows field).bind fun series _ => ?_
      rw [if_pos hsize.2]
      exact yields_pure trivial
    refine hvalues.map ?_
    rintro xs - cells ⟨⟩ value hvalue
    obtain ⟨x, -, rfl⟩ := List.mem_map.1 hvalue
    exact isReadable_doubleCell x
  | choice condition yes no =>
    obtain ⟨hcondition, houtcome⟩ := h
    refine hcells fun row hrow => ?_
    have haccepts := Filter.yields_accepts hcondition (hrows row hrow)
    refine (haccepts.and (houtcome row hrow)).bind fun accepted haccepted => ?_
    obtain ⟨-, hscalar, hreadable⟩ := haccepted
    exact ⟨_, Value.normalize_eq_ok.2 ⟨hscalar, rfl⟩, hreadable⟩
  | rank field =>
    refine (Series.yields_ofField hrows field).map ?_
    rintro xs hxs cells ⟨⟩ value hvalue
    obtain ⟨rank, hrank, rfl⟩ := List.mem_map.1 hvalue
    have hle := Series.ranks_le xs rank hrank
    exact Number.fits_natCast (by omega)
  | unsupported type =>
    exact yields_ok nofun

theorem isReadable_assign {output : String} {values : List Value}
    (hvalues : ∀ value ∈ values, value.IsReadable) :
    ∀ row ∈ assign output rows values, row.IsReadable := by
  induction rows generalizing values with
  | nil => simp [assign]
  | cons first rest ih =>
    cases values with
    | nil => simp [assign]
    | cons value values =>
      intro row hrow
      obtain rfl | hrest := List.mem_cons.1 hrow
      · exact (hrows first List.mem_cons_self).put (hvalues value List.mem_cons_self)
      · exact ih (fun r hr => hrows r (List.mem_cons_of_mem _ hr))
          (fun v hv => hvalues v (List.mem_cons_of_mem _ hv)) row hrest

/-- A calculation leaves rows that can be read, and as many as it was given. -/
theorem yields_apply (hlength : rows.length < 2 ^ 63) {c : Calculation} (h : c.rule.Fits rows) :
    (c.apply rows).Yields fun next =>
      (∀ row ∈ next, row.IsReadable) ∧ next.length = rows.length := by
  refine Yields.and ?_ fun next hnext => length_apply hnext
  refine (h.yields_values? hrows hlength).bind fun values hvalues => ?_
  split
  · next cells => exact yields_pure (isReadable_assign hrows (hvalues cells rfl))
  · exact yields_pure hrows

end Rows

/-- Whether the operands of calculations and the integers that they form fit, in turn, and those of
each column do in the end all together. -/
def FitInTurn : List Calculation → List Row → Prop
  | [], rows => ColumnsFit rows
  | c :: rest, rows => c.rule.Fits rows ∧ ∀ next, c.apply rows = .ok next → FitInTurn rest next

instance decidableFitInTurn :
    (calculations : List Calculation) → (rows : List Row) → Decidable (FitInTurn calculations rows)
  | [], rows => inferInstanceAs (Decidable (ColumnsFit rows))
  | c :: rest, rows =>
    have := decidableFitInTurn rest
    inferInstanceAs (Decidable (c.rule.Fits rows ∧ ∀ next, c.apply rows = .ok next → _))

/-- **Calculations that fit in turn do not fail.** -/
theorem yields_applyAll {calculations : List Calculation} {rows : List Row}
    (hrows : ∀ row ∈ rows, row.IsReadable) (hlength : rows.length < 2 ^ 63)
    (h : rows ≠ [] → FitInTurn calculations rows) :
    (applyAll calculations rows).Yields fun calculated =>
      (∀ row ∈ calculated, row.IsReadable) ∧ calculated.length = rows.length ∧
        ∀ field, columnSize field calculated < Double.intLimit := by
  cases rows with
  | nil =>
    have hnothing : ColumnsFit [] := nofun
    exact yields_ok ⟨hrows, rfl, hnothing.columnSize_lt⟩
  | cons first others =>
    rw [applyAll_of_ne_nil (List.cons_ne_nil first others)]
    replace h := h (List.cons_ne_nil first others)
    generalize first :: others = rows at hrows hlength h ⊢
    induction calculations generalizing rows with
    | nil => exact yields_pure ⟨hrows, rfl, h.columnSize_lt⟩
    | cons c rest ih =>
      obtain ⟨hrule, hrest⟩ := h
      rw [List.foldlM_cons]
      refine ((yields_apply hrows hlength hrule).and hrest).bind fun next hnext => ?_
      obtain ⟨⟨hreadable, hcount⟩, hfits⟩ := hnext
      have hlater := ih next hreadable (hcount ▸ hlength) hfits
      rwa [hcount] at hlater

end Calculation

/-! ## Sorting -/

namespace Value

/-- Whether a comparable value can be told apart from any other such value. -/
def Comparable.IsReadable : Comparable → Prop
  | .number n => n.Fits
  | .text s => Char.ofNat 0 ∉ s.toList

theorem IsReadable.yields_toComparable {value : Value} (h : value.IsReadable) :
    value.toComparable.Yields Comparable.IsReadable := by
  refine h.hasScalar.yields_toComparable.imp ?_
  rintro _ rfl
  cases value with
  | null => exact Text.null_not_mem_lower (s := "") (by decide)
  | bool b => exact Number.fits_of_size_lt (by cases b <;> decide)
  | number n => exact h
  | text s => exact Text.null_not_mem_lower h
  | list items => cases h
  | object fields => cases h

theorem Comparable.IsReadable.yields_toText {value : Comparable} (h : value.IsReadable) :
    value.toText.Yields fun s => Char.ofNat 0 ∉ s.toList := by
  cases value with
  | number n =>
    have hreadable : (Value.number n).IsReadable := h
    refine hreadable.yields_toText.imp ?_
    rintro _ rfl
    rw [plainText, String.toList_ofList]
    exact not_mem_numberChars (by decide) n.integral
  | text s => exact yields_ok h

end Value

namespace SortRule

open Value (Comparable)

theorem yields_collate {s t : String} (hs : Char.ofNat 0 ∉ s.toList)
    (ht : Char.ofNat 0 ∉ t.toList) : (collate s t).Yields fun _ => True := by
  rw [collate, Text.contains_null hs, Text.contains_null ht]
  exact yields_ok trivial

theorem yields_compareValues {a b : Comparable} (ha : a.IsReadable) (hb : b.IsReadable) :
    (compareValues a b).Yields fun _ => True := by
  unfold compareValues
  split
  · exact yields_ok trivial
  · split
    · exact yields_ok trivial
    · exact ha.yields_toText.bind fun s hs => hb.yields_toText.bind fun t ht => yields_collate hs ht

theorem yields_compareKeys (directions : List Direction) {as bs : Key}
    (has : ∀ a ∈ as, a.Yields Comparable.IsReadable)
    (hbs : ∀ b ∈ bs, b.Yields Comparable.IsReadable) :
    (compareKeys directions as bs).Yields fun _ => True := by
  induction directions generalizing as bs with
  | nil => exact yields_ok trivial
  | cons direction directions ih =>
    match as, bs, has, hbs with
    | [], _, _, _ => exact yields_ok trivial
    | _ :: _, [], _, _ => exact yields_ok trivial
    | a :: as, b :: bs, has, hbs =>
      rw [compareKeys]
      refine (has a List.mem_cons_self).bind fun left hleft => ?_
      refine (hbs b List.mem_cons_self).bind fun right hright => ?_
      refine (yields_compareValues hleft hright).bind fun order _ => ?_
      cases order with
      | eq =>
        exact ih (fun x hx => has x (List.mem_cons_of_mem a hx))
          fun x hx => hbs x (List.mem_cons_of_mem b hx)
      | lt | gt => exact yields_pure trivial

theorem firstFailure?_eq_none (directions : List Direction) {keys : List Key}
    (h : ∀ key ∈ keys, ∀ value ∈ key, value.Yields Comparable.IsReadable) :
    firstFailure? directions keys = none := by
  refine firstFailure?_eq_none_iff.2 (List.pairwise_of_forall_mem_list fun a ha b hb => ?_)
  obtain ⟨order, horder, -⟩ := yields_compareKeys directions (h a ha) (h b hb)
  exact ⟨order, horder⟩

/-- **Rows that can be read can be sorted.** -/
theorem yields_sortRows (rules : List SortRule) {rows : List Row}
    (hrows : ∀ row ∈ rows, row.IsReadable) : (sortRows rules rows).Yields (·.Perm rows) := by
  have hkeys : ∀ k ∈ rows.map (key rules), ∀ value ∈ k,
      value.Yields Comparable.IsReadable := by
    intro k hk value hvalue
    obtain ⟨row, hrow, rfl⟩ := List.mem_map.1 hk
    obtain ⟨rule, -, rfl⟩ := List.mem_map.1 hvalue
    exact ((hrows row hrow).cell rule.field).yields_toComparable
  have hsucceeds : (sortRows rules rows).Yields fun _ => True := by
    rw [sortRows, keys_keyed, firstFailure?_eq_none _ hkeys]
    exact yields_ok trivial
  exact (hsucceeds.and fun _ hout => perm_sortRows hout).imp fun _ hout => hout.2

end SortRule

/-! ## Tables -/

theorem columnSize_perm {rows others : List Row} (h : rows.Perm others) (field : String) :
    columnSize field rows = columnSize field others :=
  (h.map _).sum_eq

/-- Whether the rows of a whole table can be read, are no more than rows can be, and have columns
that fit. -/
structure IsReadableTable (rows : List Row) : Prop where
  rows_isReadable : ∀ row ∈ rows, row.IsReadable
  length_lt : rows.length < 2 ^ 63
  columnSize_lt : ∀ field, columnSize field rows < Double.intLimit

theorem isReadableTable_of_isPlain {rows : List Row} (hlength : rows.length < 2 ^ 63)
    (hrows : ∀ row ∈ rows, row.IsPlain) : IsReadableTable rows where
  rows_isReadable row hrow := (hrows row hrow).isReadable
  length_lt := hlength
  columnSize_lt := columnSize_lt_of_isPlain hlength hrows

theorem IsReadableTable.yields_columnTotals {rows : List Row} (h : IsReadableTable rows)
    (columns : List String) : (columnTotals rows columns).Yields fun _ => True := by
  refine yields_foldlM trivial fun totals _ column _ => ?_
  have htotal : (columnTotal rows column).Yields fun _ => True := by
    refine (yields_numbers h.rows_isReadable column).bind fun numbers hnumbers => ?_
    have hsum := Nat.lt_of_le_of_lt hnumbers.2 (h.columnSize_lt column)
    exact (Number.yields_sum hsum).map fun _ _ => trivial
  exact htotal.map fun _ _ => trivial

namespace Table

/-- **A table of rows that can be read is completed** if its calculations fit in turn. -/
theorem yields_build {view : View} {calculations : List Calculation} {rows : List Row}
    (h : IsReadableTable rows)
    (hcalculations : ∀ grouped, groupRows view rows = .ok grouped → grouped ≠ [] →
      Calculation.FitInTurn calculations grouped) (page pageSize : Int) :
    (build view calculations page pageSize rows).Yields fun built => IsReadableTable built.2 := by
  have hall : (allRows view calculations rows).Yields IsReadableTable := by
    have hgrouped := yields_groupRows h.rows_isReadable h.length_lt h.columnSize_lt view
    refine (hgrouped.and hcalculations).bind fun grouped hgrouped => ?_
    obtain ⟨⟨hreadable, hlength⟩, hfit⟩ := hgrouped
    have hfew := Nat.lt_of_le_of_lt hlength h.length_lt
    refine (Calculation.yields_applyAll hreadable hfew hfit).bind fun calculated hcalculated => ?_
    obtain ⟨hreadable, hcount, hcolumns⟩ := hcalculated
    refine (SortRule.yields_sortRows view.sort hreadable).imp fun ordered hperm => ?_
    exact
      { rows_isReadable := fun row hrow => hreadable row (hperm.subset hrow)
        length_lt := by rwa [hperm.length_eq, hcount]
        columnSize_lt := fun field => columnSize_perm hperm field ▸ hcolumns field }
  refine hall.bind fun ordered hordered => ?_
  exact (hordered.yields_columnTotals _).map fun _ _ => hordered

end Table

end Reporting
