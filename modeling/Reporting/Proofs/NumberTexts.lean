import Reporting.Proofs.FilteredGroups
import Reporting.Proofs.NumberChars
import Reporting.Proofs.SortOrder

/-!
# Texts and groups of numbers

A number without a fraction is written as the integer that it equals, and one with a fraction has a
point or an exponent, which no integer has. So the texts of a whole number and of a finite one are
the same exactly if the numbers are equal (`Value.plainText_number_inj`), and rows that have numbers
for dimensions form one group exactly if these are equal (`groupRows_numbers`). Only an integer with
too many digits has no text, and stops the grouping.
-/

namespace Reporting

/-! ## Whole numbers -/

namespace Number

/-- Whether a number is an integer or a double that is no infinity. -/
def IsFinite : Number → Prop
  | .int _ => True
  | .double x => x.isFinite = true

instance : DecidablePred IsFinite
  | .int _ => inferInstanceAs (Decidable True)
  | .double x => inferInstanceAs (Decidable (x.isFinite = true))

/-- Whether a number is an integer or a double without a fraction. -/
def IsWhole : Number → Prop
  | .int _ => True
  | .double x => x.toInt?.isSome = true

instance : DecidablePred IsWhole
  | .int _ => inferInstanceAs (Decidable True)
  | .double x => inferInstanceAs (Decidable (x.toInt?.isSome = true))

variable {m n : Number}

/-- Finite numbers are equal if they have the same value. -/
theorem equals_iff (hm : m.IsFinite) (hn : n.IsFinite) : m.equals n = true ↔ m.units = n.units := by
  have hnan : ∀ k : Number, k.IsFinite → k ≠ .double .nan := by
    rintro k hk rfl
    cases hk
  have hside : ∀ k : Number, k.IsFinite → k.side = 0 := by
    intro k hk
    match k, hk with
    | .int _, _ => rfl
    | .double (.finite _ _), _ => rfl
  rw [equals, decide_eq_true_eq, compare?_eq (hnan m hm) (hnan n hn), Option.some.injEq, order,
    compareLex_eq_eq, compareOn, compareOn, hside m hm, hside n hn, compare_eq_iff_eq,
    compare_eq_iff_eq, eq_self, true_and]

theorem IsWhole.isFinite (h : n.IsWhole) : n.IsFinite := by
  match n, h with
  | .int _, _ => trivial
  | .double (.finite _ _), _ => rfl

/-- A whole number is the integer of its value. -/
theorem IsWhole.exists_integral (h : n.IsWhole) :
    ∃ k, n.integral = .int k ∧ n.units = k * Double.one := by
  match n, h with
  | .int k, _ => exact ⟨k, rfl, rfl⟩
  | .double (.finite s a), h =>
    obtain ⟨k, hk⟩ := Option.isSome_iff_exists.1 h
    exact ⟨k, by rw [integral, hk], Double.signed_of_toInt? hk⟩

/-- A finite number that is not whole is a double, and no integer has its value. -/
theorem IsFinite.exists_fraction (h : n.IsFinite) (hfraction : ¬n.IsWhole) :
    ∃ s a, n.integral = .double (.finite s a) ∧ ∀ k : Int, n.units ≠ k * Double.one := by
  match n, h with
  | .int k, _ => exact absurd trivial hfraction
  | .double (.finite s a), _ =>
    have hnone : Double.toInt? (.finite s a) = none := Option.not_isSome_iff_eq_none.1 hfraction
    refine ⟨s, a, by rw [integral, hnone], fun k hk => ?_⟩
    rw [Double.toInt?_finite_iff.2 hk] at hnone
    cases hnone

end Number

/-! ## Texts -/

namespace Value

theorem toText_eq_error {value : Value} {failure : Failure} :
    value.toText = .error failure ↔ ¬value.IsWritable ∧ failure = .tooManyDigits := by
  by_cases h : value.IsWritable
  · rw [toText_eq_ok.2 ⟨h, rfl⟩]
    simp [h]
  · rw [toText, if_neg h, Except.error.injEq, eq_comm]
    exact (and_iff_right h).symm

/-- No integer is written like a double. -/
theorem intChars_ne_text (n : Int) (s : Bool) (a : Double.Magnitude) :
    intChars n ≠ doubleLayout.text (.finite s a) := by
  intro h
  have hpoint : '.' ∉ intChars n := not_mem_intChars (by decide) (by decide) n
  have hmark : 'e' ∉ intChars n := not_mem_intChars (by decide) (by decide) n
  obtain hmem | hmem := doubleLayout.point_or_mark_mem_text s a
  · exact hpoint (h ▸ hmem)
  · exact hmark (h ▸ hmem)

/-- **The texts of a whole number and of a finite one are the same exactly if the numbers are
equal.** -/
theorem plainText_number_inj {m n : Number} (hm : m.IsWhole) (hn : n.IsFinite) :
    plainText (.number m) = plainText (.number n) ↔ m.equals n = true := by
  obtain ⟨j, hj, hunits⟩ := hm.exists_integral
  rw [Number.equals_iff hm.isFinite hn, hunits, plainText, plainText, String.ofList_inj, hj]
  by_cases hwhole : n.IsWhole
  · obtain ⟨k, hk, hkunits⟩ := hwhole.exists_integral
    have hone : (Double.one : Int) ≠ 0 := Int.natCast_ne_zero.2 Double.one_pos.ne'
    rw [hk, hkunits, numberChars, numberChars, intChars_inj]
    exact ⟨fun e => e ▸ rfl, Int.eq_of_mul_eq_mul_right hone⟩
  · -- A number with a fraction is written as a double, and is equal to no integer.
    obtain ⟨s, a, hdouble, hunits⟩ := hn.exists_fraction hwhole
    rw [hdouble, numberChars, numberChars]
    exact iff_of_false (intChars_ne_text j s a) fun e => hunits j e.symm

/-- Whether one of two cells has no fraction and the other is finite, if both are numbers. -/
def OneIsWhole : Value → Value → Prop
  | .number m, .number n => m.IsWhole ∧ n.IsFinite ∨ m.IsFinite ∧ n.IsWhole
  | _, _ => True

instance (value other : Value) : Decidable (value.OneIsWhole other) := by
  unfold OneIsWhole
  split <;> infer_instance

/-- Whether two cells count as the same: numbers if they are equal, and other cells if they have the
same text. -/
def Matches : Value → Value → Prop
  | .number m, .number n => m.equals n = true
  | value, other => value.normalized.plainText = other.normalized.plainText

theorem matches_iff {value other : Value} (h : value.OneIsWhole other) :
    value.Matches other ↔ value.normalized.plainText = other.normalized.plainText := by
  match value, other, h with
  | .number m, .number n, .inl ⟨hm, hn⟩ => exact (plainText_number_inj hm hn).symm
  | .number m, .number n, .inr ⟨hm, hn⟩ =>
    have hswap : m.equals n = true ↔ n.equals m = true := by
      rw [Number.equals_iff hm hn.isFinite, Number.equals_iff hn.isFinite hm, eq_comm]
    rw [Matches, hswap, ← plainText_number_inj hn hm, eq_comm]
    rfl
  | .null, _, _ | .bool _, _, _ | .text _, _, _ | .list _, _, _ | .object _, _, _ => exact Iff.rfl
  | .number _, .null, _ | .number _, .bool _, _ | .number _, .text _, _ | .number _, .list _, _
  | .number _, .object _, _ => exact Iff.rfl

end Value

/-! ## Groups -/

namespace Grouping

/-- Whether the dimension texts of a row other than those of numbers are free of separators. -/
def HasPartedTexts (dimensions : List String) (row : Row) : Prop :=
  ∀ field ∈ dimensions, (row.cell field).isNumber = false →
    separator ∉ (row.cell field).normalized.plainText.toList

instance (dimensions : List String) (row : Row) : Decidable (HasPartedTexts dimensions row) := by
  unfold HasPartedTexts
  infer_instance

/-- What the groups of rows are: they hold all rows, no row is in two of them, and each has a row of
its own in the result. -/
structure AreGroups (view : View) (rows : List Row) (groups : List (List Row)) : Prop where
  all : groups.flatten.Perm rows
  apart : groups.Pairwise List.Disjoint
  grouped : groupRows view rows = groups.mapM (groupRow view)

variable {dimensions : List String} {row other : Row}

/-- The texts of numbers are free of separators. -/
theorem HasPartedTexts.isParted (h : HasPartedTexts dimensions row) : IsParted dimensions row := by
  intro field hfield
  cases hcell : row.cell field with
  | number n =>
    change separator ∉ (String.ofList (Value.numberChars n.integral)).toList
    rw [String.toList_ofList]
    exact Value.not_mem_numberChars (by decide) _
  | _ => exact hcell ▸ h field hfield (hcell ▸ rfl)

/-- The keys of rows are the same exactly if their dimension cells count as the same. -/
theorem plainKey_eq_iff (hrow : HasPartedTexts dimensions row)
    (hother : HasPartedTexts dimensions other)
    (hwhole : ∀ field ∈ dimensions, (row.cell field).OneIsWhole (other.cell field)) :
    plainKey dimensions row = plainKey dimensions other ↔
      ∀ field ∈ dimensions, (row.cell field).Matches (other.cell field) := by
  have hmatches : (∀ field ∈ dimensions, (row.cell field).Matches (other.cell field)) ↔
      tuple dimensions row = tuple dimensions other := by
    rw [tuple, tuple, List.map_inj_left]
    exact forall₂_congr fun field hfield => Value.matches_iff (hwhole field hfield)
  rw [hmatches, plainKey_eq, plainKey_eq]
  exact ⟨tuple_of_tupleKey hrow.isParted hother.isParted, congrArg tupleKey⟩

theorem eq_of_key_error {failure : Failure} (h : key dimensions row = .error failure) :
    failure = .tooManyDigits := by
  cases htexts : dimensions.mapM (dimensionText row) with
  | ok texts =>
    rw [key, htexts] at h
    cases h
  | error other =>
    obtain ⟨field, -, htext⟩ := Outcome.exists_of_mapM_eq_error htexts
    rw [key, htexts] at h
    rw [dimensionText_eq] at htext
    obtain rfl := Except.error.inj h
    exact (Value.toText_eq_error.1 htext).2

end Grouping

section Groups

variable {view : View} {rows : List Row}

/-- Rows whose dimensions can be written are grouped by their keys. -/
theorem exists_groups (h : ∀ row ∈ rows, Grouping.IsKeyable view.dimensions row) :
    ∃ groups, Grouping.AreGroups view rows groups ∧
      ∀ group ∈ groups, ∀ row ∈ group, ∀ other ∈ rows, other ∈ group ↔
        Grouping.plainKey view.dimensions row = Grouping.plainKey view.dimensions other := by
  let key := Grouping.plainKey view.dimensions
  refine ⟨(firsts (rows.map key)).map (fiber key rows), ⟨?_, ?_, ?_⟩,
    fun group hgroup row hrow => ?_⟩
  · rw [← List.flatMap_def]
    exact flatMap_fiber_firsts key rows
  · refine List.pairwise_map.2 ((nodup_firsts _).imp fun hne row hleft hright => hne ?_)
    exact (mem_fiber.1 hleft).2.symm.trans (mem_fiber.1 hright).2
  · rw [groupRows_eq h, List.mapM_map]
    rfl
  · obtain ⟨k, -, rfl⟩ := List.mem_map.1 hgroup
    obtain ⟨-, rfl⟩ := mem_fiber.1 hrow
    intro other hother
    rw [mem_fiber, eq_comm]
    exact and_iff_right hother

/-- Rows one of whose dimensions cannot be written are not grouped. -/
theorem groupRows_eq_error (h : ∃ row ∈ rows, ¬Grouping.IsKeyable view.dimensions row) :
    groupRows view rows = .error .tooManyDigits := by
  have hkeys : rows.mapM (Grouping.key view.dimensions) = .error .tooManyDigits := by
    refine Outcome.mapM_eq_error (fun row _ _ => Grouping.eq_of_key_error) ?_
    obtain ⟨row, hrow, hunwritable⟩ := h
    exact ⟨row, hrow, fun k hk => hunwritable (Grouping.isKeyable_of_key hk)⟩
  rw [groupRows, hkeys]
  rfl

end Groups

/-- **Texts and groups of numbers.** A number without a fraction and a finite one have the same text
exactly if they are equal, as long as neither has too many digits; a number that has them has no
text. Rows whose dimensions can be written form groups, and of two rows whose numbers are of these
kinds, both are in one group exactly if all their dimension cells count as the same. Rows one of
whose dimensions cannot be written are not grouped. -/
theorem groupRows_numbers (view : View) {rows : List Row}
    (hparted : ∀ row ∈ rows, Grouping.HasPartedTexts view.dimensions row) :
    (∀ m n : Number, m.IsWhole → n.IsFinite →
      (Value.number m).IsWritable → (Value.number n).IsWritable →
        ∃ s t, (Value.number m).toText = .ok s ∧ (Value.number n).toText = .ok t ∧
          (s = t ↔ m.equals n = true)) ∧
    (∀ n : Number, ¬(Value.number n).IsWritable →
      (Value.number n).toText = .error .tooManyDigits) ∧
    ((∀ row ∈ rows, Grouping.IsKeyable view.dimensions row) →
      ∃ groups, Grouping.AreGroups view rows groups ∧
        ∀ group ∈ groups, ∀ row ∈ group, ∀ other ∈ rows,
          (∀ field ∈ view.dimensions, (row.cell field).OneIsWhole (other.cell field)) →
            (other ∈ group ↔
              ∀ field ∈ view.dimensions, (row.cell field).Matches (other.cell field))) ∧
    ((∃ row ∈ rows, ¬Grouping.IsKeyable view.dimensions row) →
      groupRows view rows = .error .tooManyDigits) := by
  refine ⟨fun m n hm hn hmwritable hnwritable => ?_, fun n h => Value.toText_eq_error.2 ⟨h, rfl⟩,
    fun hkeyable => ?_, groupRows_eq_error⟩
  · exact ⟨_, _, Value.toText_eq_ok.2 ⟨hmwritable, rfl⟩, Value.toText_eq_ok.2 ⟨hnwritable, rfl⟩,
      Value.plainText_number_inj hm hn⟩
  · obtain ⟨groups, hgroups, hmembers⟩ := exists_groups hkeyable
    refine ⟨groups, hgroups, fun group hgroup row hrow other hother hwhole => ?_⟩
    have hmem : row ∈ rows := hgroups.all.subset (List.mem_flatten.2 ⟨group, hgroup, hrow⟩)
    rw [hmembers group hgroup row hrow other hother]
    exact Grouping.plainKey_eq_iff (hparted row hmem) (hparted other hother) hwhole

/-- Sales in years that are integers or doubles, zeros of either sign among them. -/
def mixedYears : List Row := [
  .ofList [("region", .text "north"), ("year", .int 2024), ("amount", .int 3)],
  .ofList [("region", .text "north"), ("year", .double (.ofNat 2024)), ("amount", .int 7)],
  .ofList [("region", .text "south"), ("year", .double (.zero true)), ("amount", .int 5)],
  .ofList [("region", .text "south"), ("year", .int 0), ("amount", .int 4)]]

theorem groupRows_numbers_mixedYears :
    (∃ s t, (Value.int 2024).toText = .ok s ∧
      (Value.double (.ofDecimal false 20245 (-1))).toText = .ok t ∧ s ≠ t) ∧
    (groupRows yearlySales mixedYears).map (fun out => out.map fun row =>
      (row.cell "region", row.cell "total")) =
        .ok [(.text "north", .int 10), (.text "south", .int 9)] ∧
    ∃ groups, Grouping.AreGroups yearlySales mixedYears groups ∧
      ∀ group ∈ groups, ∀ row ∈ group, ∀ other ∈ mixedYears,
        (other ∈ group ↔
          ∀ field ∈ yearlySales.dimensions, (row.cell field).Matches (other.cell field)) := by
  have hparted : ∀ row ∈ mixedYears, Grouping.HasPartedTexts yearlySales.dimensions row := by
    decide +kernel
  have hwhole : ∀ row ∈ mixedYears, ∀ other ∈ mixedYears, ∀ field ∈ yearlySales.dimensions,
      (row.cell field).OneIsWhole (other.cell field) := by
    decide +kernel
  have hgrouped : (groupRows yearlySales mixedYears).map (fun out => out.map fun row =>
      (row.cell "region", row.cell "total")) =
        .ok [(.text "north", .int 10), (.text "south", .int 9)] := by decide +kernel
  obtain ⟨out, hout, -⟩ := Outcome.map_eq_ok.1 hgrouped
  obtain ⟨htexts, -, hgroups, -⟩ := groupRows_numbers yearlySales hparted
  refine ⟨?_, hgrouped, ?_⟩
  · obtain ⟨s, t, hs, ht, hiff⟩ := htexts (.int 2024) (.double (.ofDecimal false 20245 (-1)))
      trivial (by decide +kernel) (by decide +kernel) trivial
    exact ⟨s, t, hs, ht, fun h => absurd (hiff.1 h) (by decide +kernel)⟩
  · obtain ⟨groups, hgroups, hmembers⟩ := hgroups (isKeyable_of_groupRows hout)
    refine ⟨groups, hgroups, fun group hgroup row hrow other hother => ?_⟩
    have hmem : row ∈ mixedYears := hgroups.all.subset (List.mem_flatten.2 ⟨group, hgroup, hrow⟩)
    exact hmembers group hgroup row hrow other hother (hwhole row hmem other hother)

/-- A number with too many digits has no text, although it is equal to itself. -/
theorem exists_equal_without_text : ¬∀ m n : Number, m.IsWhole → n.IsFinite →
    ((∃ s, (Value.number m).toText = .ok s ∧ (Value.number n).toText = .ok s) ↔
      m.equals n = true) := by
  intro h
  have hwhole : (Number.int (10 ^ Text.digitLimit : Nat)).IsWhole := trivial
  have hequal := (Number.equals_iff hwhole.isFinite hwhole.isFinite).2 rfl
  obtain ⟨s, hs, -⟩ := (h _ _ hwhole hwhole.isFinite).2 hequal
  have hbelow : ((10 ^ Text.digitLimit : Nat) : Int).natAbs < 10 ^ Text.digitLimit :=
    (Value.toText_eq_ok.1 hs).1
  rw [Int.natAbs_natCast] at hbelow
  exact absurd hbelow (Nat.lt_irrefl _)

end Reporting
