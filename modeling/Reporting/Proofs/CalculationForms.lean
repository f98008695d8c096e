import Reporting.Proofs.WireForms

/-!
# Written forms of calculations

A calculation is read back from its written form unless it is an unsupported one of a type that is
known, which is then read as the plain rule of this type (`Wire.calculation_ofCalculation`). Such a
calculation is what an object is read as that leaves its type to its inner object
(`Wire.HidesType`): the kind goes by the outer type alone, while the type that is kept may come from
the inner one. So calculations survive the wire exactly where objects do not hide their types
(`Wire.calculation_roundTrip`).
-/

namespace Reporting.Wire

open Calculation (Rule)

/-! ## Reading what was written -/

/-- The rule of an object that tells nothing but a type of this kind. -/
def CalculationKind.plainRule (type : String) : CalculationKind → Rule
  | .arithmetic => .arithmetic ""
  | .variance percentage => .variance percentage "" ""
  | .change period => .change period ""
  | .rolling => .rolling "" (.int 3)
  | .yearToDate => .yearToDate ""
  | .choice => .choice ⟨"", Filter.defaultOperator, .null⟩ .null .null
  | .rank => .rank ""
  | .unsupported => .unsupported type

/-- The plain rule of a type. -/
def plainRule (type : String) : Rule := (CalculationKind.ofName type).plainRule type

/-- The rule that the written form of a rule is read as. -/
def reread : Rule → Rule
  | .unsupported type => plainRule type
  | rule => rule

theorem plainRule_of_unsupported {type : String}
    (h : CalculationKind.ofName type = .unsupported) : plainRule type = .unsupported type := by
  rw [plainRule, h]
  rfl

theorem ofName_of_plainRule {type other : String} (h : plainRule type = .unsupported other) :
    CalculationKind.ofName type = .unsupported := by
  rw [plainRule] at h
  cases hkind : CalculationKind.ofName type with
  | unsupported => rfl
  | _ => rw [hkind] at h; cases h

theorem typeName_plainRule (type : String) : (plainRule type).typeName = type := by
  unfold plainRule CalculationKind.ofName
  split <;> rfl

theorem typeName_reread (rule : Rule) : (reread rule).typeName = rule.typeName := by
  cases rule with
  | unsupported type => exact typeName_plainRule type
  | _ => rfl

/-- What is read back is read back as the same from then on. -/
theorem reread_reread (rule : Rule) : reread (reread rule) = reread rule := by
  cases rule with
  | unsupported type =>
    rw [reread]
    cases hrule : plainRule type with
    | unsupported other =>
      have hkind := ofName_of_plainRule hrule
      rw [plainRule_of_unsupported hkind] at hrule
      rw [reread, ← Rule.unsupported.inj hrule, plainRule_of_unsupported hkind]
    | _ => rfl
  | _ => rfl

/-- A rule is kept unless it is unsupported though its type is known. -/
theorem reread_eq_self_iff {rule : Rule} :
    reread rule = rule ↔
      ∀ type, rule = .unsupported type → CalculationKind.ofName type = .unsupported := by
  cases rule with
  | unsupported type =>
    constructor
    · rintro h other hother
      exact Rule.unsupported.inj hother ▸ ofName_of_plainRule h
    · exact fun h => plainRule_of_unsupported (h type rfl)
  | _ =>
    constructor
    · intro _ type h
      cases h
    · exact fun _ => rfl

/-- The entries of a calculation's written form. -/
def entriesOf (c : Calculation) : Entries :=
  ofHeading ⟨c.id, c.name, c.output⟩ ++ ("type", .text c.rule.typeName) :: ofRule c.rule

theorem calculationKind_entriesOf (c : Calculation) :
    calculationKind (entriesOf c) = .ofName c.rule.typeName := by
  simp [calculationKind, entriesOf, ofHeading]

/-- A written form has no inner object. -/
theorem lifted_entriesOf (c : Calculation) : lifted (entriesOf c) = entriesOf c := by
  have habsent : Keyed.find? "config" (entriesOf c) = none := by
    refine Keyed.find?_eq_none ?_
    cases hrule : c.rule <;> simp [entriesOf, ofHeading, ofRule, hrule]
  rw [lifted, habsent]

theorem headingOf_entriesOf (output : Option String) (c : Calculation) :
    headingOf output (entriesOf c) = some ⟨c.id, c.name, c.output⟩ := by
  cases output <;> simp [headingOf, entriesOf, ofHeading, required, optional, lookup]

/-- The written form of a rule is read as the kind of its type. -/
theorem rule_entriesOf (c : Calculation) :
    rule (entriesOf c) (.ofName c.rule.typeName) = some (reread c.rule) := by
  obtain ⟨id, name, output, r⟩ := c
  cases r with
  | variance percentage minuend subtrahend =>
    cases percentage <;>
      simp [rule, entriesOf, ofHeading, ofRule, optional, lookup, Rule.typeName,
        CalculationKind.ofName, reread]
  | change period field =>
    cases period <;>
      simp [rule, baseField, entriesOf, ofHeading, ofRule, optional, lookup, Rule.typeName,
        Period.name, CalculationKind.ofName, reread]
  | unsupported type =>
    -- Nothing but the type is written, so every other field has its default.
    simp only [reread, plainRule, Rule.typeName]
    cases CalculationKind.ofName type <;>
      simp [rule, baseField, condition, entriesOf, ofHeading, ofRule, required, optional, lookup,
        List.findSome?, CalculationKind.plainRule, Rule.typeName]
  | _ =>
    simp [rule, baseField, condition, entriesOf, ofHeading, ofRule, optional, lookup,
      Rule.typeName, CalculationKind.ofName, reread]

/-- The written form of any calculation is read, with the rule that its type stands for. -/
theorem calculation_ofCalculation (c : Calculation) :
    calculation (ofCalculation c) = some { c with rule := reread c.rule } := by
  have hentries : ofCalculation c = .object (entriesOf c) := rfl
  simp only [calculation, hentries, entries_object, Option.bind_eq_bind, Option.bind_some,
    calculationOf, calculationKind_entriesOf, lifted_entriesOf, headingOf_entriesOf,
    rule_entriesOf]
  rfl

/-! ## Types in the inner object -/

/-- The entries of the inner object, if there is one. -/
def innerOf (fields : Entries) : Entries :=
  match Keyed.find? "config" fields with
  | some (.object inner) => inner
  | _ => []

/-- The outer entries count before the inner ones. -/
theorem find?_lifted {key : String} (h : key ≠ "config") (fields : Entries) :
    Keyed.find? key (lifted fields) =
      (Keyed.find? key fields).or (Keyed.find? key (innerOf fields)) := by
  cases hconfig : Keyed.find? "config" fields with
  | none => simp [lifted, innerOf, hconfig]
  | some value =>
    cases value with
    | object inner =>
      simp only [lifted, innerOf, hconfig]
      rw [Keyed.find?_append, Keyed.find?_filter_ne h]
    | _ => simp [lifted, innerOf, hconfig]

/-- Whether a value is an object without a type of its own whose inner object has a known one. -/
def HidesType (value : Value) : Prop :=
  ∃ fields name, value = .object fields ∧ Keyed.find? "type" fields = none ∧
    Keyed.find? "type" (innerOf fields) = some (.text name) ∧
    CalculationKind.ofName name ≠ .unsupported

/-- The rule of a calculation that was read from an object. -/
theorem rule_of_calculation {value : Value} {c : Calculation} (h : calculation value = some c) :
    ∃ fields, value = .object fields ∧
      rule (lifted fields) (calculationKind fields) = some c.rule := by
  obtain ⟨fields, hfields, h⟩ := Option.bind_eq_some_iff.1 h
  obtain ⟨heading, -, h⟩ := Option.bind_eq_some_iff.1 h
  obtain ⟨r, hrule, h⟩ := Option.bind_eq_some_iff.1 h
  obtain rfl := Option.some.inj h
  cases value with
  | object entries =>
    obtain rfl := Option.some.inj hfields
    exact ⟨entries, rfl, hrule⟩
  | _ => cases hfields

/-- An unsupported rule keeps the type that is found, be it an inner one. -/
theorem rule_unsupported (fields : Entries) {r : Rule} :
    rule fields .unsupported = some r ↔
      ∃ type, Keyed.find? "type" fields = some (.text type) ∧ r = .unsupported type := by
  simp only [rule, required, lookup, List.findSome?]
  cases hvalue : Keyed.find? "type" fields with
  | none => simp
  | some value =>
    cases value <;> simp [text, eq_comm]

/-- Only the unsupported kind has unsupported rules. -/
theorem kind_of_rule_unsupported {fields : Entries} {kind : CalculationKind} {type : String}
    (h : rule fields kind = some (.unsupported type)) : kind = .unsupported := by
  cases kind with
  | unsupported => rfl
  | _ => simp [rule, Option.bind_eq_some_iff] at h

/-- An unsupported calculation of a known type comes from an object that hides it. -/
theorem hidesType_iff {value : Value} {c : Calculation} (h : calculation value = some c) :
    HidesType value ↔
      ∃ type, c.rule = .unsupported type ∧ CalculationKind.ofName type ≠ .unsupported := by
  obtain ⟨fields, rfl, hrule⟩ := rule_of_calculation h
  have hlifted : Keyed.find? "type" (lifted fields) =
      (Keyed.find? "type" fields).or (Keyed.find? "type" (innerOf fields)) :=
    find?_lifted (by decide) fields
  constructor
  · rintro ⟨_, name, hfields, houter, hinner, hknown⟩
    obtain rfl := Value.object.inj hfields
    have hkind : calculationKind fields = .unsupported := by rw [calculationKind, houter]
    rw [hkind, rule_unsupported, hlifted, houter, hinner] at hrule
    obtain ⟨type, htype, hrule⟩ := hrule
    obtain rfl : name = type := by simpa using htype
    exact ⟨name, hrule, hknown⟩
  · rintro ⟨type, hc, hknown⟩
    rw [hc] at hrule
    have hkind := kind_of_rule_unsupported hrule
    rw [hkind, rule_unsupported, hlifted] at hrule
    obtain ⟨other, hother, htype⟩ := hrule
    obtain rfl := Rule.unsupported.inj htype
    cases houter : Keyed.find? "type" fields with
    | none =>
      rw [houter, Option.none_or] at hother
      exact ⟨fields, type, rfl, houter, hother, hknown⟩
    | some outer =>
      -- An outer type selects the kind itself, so it cannot be a known one.
      obtain rfl : outer = .text type := by simpa [houter] using hother
      rw [calculationKind, houter] at hkind
      exact absurd hkind hknown

/-! ## Reading written forms -/

/-- **Calculations survive the wire unless their objects hide a known type.** Whatever object a
calculation was read from, its written form is read as a calculation of the same heading and type,
and from then on as the same one. It is equal to the first if and only if the object does not leave
a known type to its inner object; there the first reading takes the calculation for an unsupported
one, and the second for what its type says. -/
theorem calculation_roundTrip {value : Value} {c : Calculation} (h : calculation value = some c) :
    (calculation (ofCalculation c) = some c ↔ ¬ HidesType value) ∧
    ∃ d, calculation (ofCalculation c) = some d ∧ d.id = c.id ∧ d.name = c.name ∧
      d.output = c.output ∧ d.rule.typeName = c.rule.typeName ∧
      calculation (ofCalculation d) = some d := by
  refine ⟨?_, { c with rule := reread c.rule }, calculation_ofCalculation c, rfl, rfl, rfl,
    typeName_reread c.rule, ?_⟩
  · calc calculation (ofCalculation c) = some c
        ↔ reread c.rule = c.rule := by
          rw [calculation_ofCalculation, Option.some.injEq, Calculation.mk.injEq]
          simp
      _ ↔ ∀ type, c.rule = .unsupported type → CalculationKind.ofName type = .unsupported :=
          reread_eq_self_iff
      _ ↔ ¬ HidesType value := by
          rw [hidesType_iff h]
          push Not
          rfl
  · rw [calculation_ofCalculation]
    simp only [reread_reread]

/-- A rolling average whose fields stand in an inner object, its type aside. -/
def rollingObject : Value :=
  .object [("type", .text "ROLLING"), ("outputField", .text "Rolling"),
    ("config", .object [("baseField", .text "Sales"), ("window", .int 3)])]

theorem calculation_roundTrip_rolling :
    calculation rollingObject = some ⟨"", "", "Rolling", .rolling "Sales" (.int 3)⟩ ∧
    ¬ HidesType rollingObject ∧
    calculation (ofCalculation ⟨"", "", "Rolling", .rolling "Sales" (.int 3)⟩) =
      some ⟨"", "", "Rolling", .rolling "Sales" (.int 3)⟩ := by
  have hread : calculation rollingObject =
      some ⟨"", "", "Rolling", .rolling "Sales" (.int 3)⟩ := rfl
  have hshown : ¬ HidesType rollingObject := by
    rintro ⟨fields, name, hfields, houter, -⟩
    obtain rfl := Value.object.inj hfields
    simp at houter
  exact ⟨hread, hshown, (calculation_roundTrip hread).1.2 hshown⟩

/-- A rank whose type stands in an inner object as well. -/
def rankObject : Value :=
  .object [("config", .object [("type", .text "RANK"), ("outputField", .text "Place")])]

/-- Where the inner object tells the type, a calculation is read as an unsupported one, and its
written form as a rank. -/
theorem exists_calculation_changed :
    ¬ ∀ value c, calculation value = some c → calculation (ofCalculation c) = some c := by
  intro h
  have hread : calculation rankObject = some ⟨"", "", "Place", .unsupported "RANK"⟩ := rfl
  have hagain : calculation (ofCalculation ⟨"", "", "Place", .unsupported "RANK"⟩) =
      some ⟨"", "", "Place", .rank ""⟩ := rfl
  have hsame := h _ _ hread
  rw [hagain] at hsame
  simp at hsame

end Reporting.Wire
