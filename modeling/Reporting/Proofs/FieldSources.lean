import Reporting.Distinct
import Reporting.Proofs.CalculationForms

/-!
# Where the fields of a calculation come from

A field has two spellings, in camel case and in snake case (`Wire.spellings`), and may stand in the
outer object or in the inner one. What a calculation was read with stands under the first spelling
that either object has (`Wire.isTakenFrom_calculation`). So an outer entry in camel case counts
whatever the inner object holds, but one in snake case gives way to an inner one in camel case
(`Wire.calculation_outer_first`).
-/

namespace Reporting.Wire

open Calculation (Rule)

/-! ## Spellings -/

/-- A name in snake case: a capital becomes an underscore and its small letter. -/
def snakeCase (name : String) : String :=
  String.ofList (name.toList.flatMap fun c => if c.isUpper then ['_', c.toLower] else [c])

/-- The spellings of the name of a field, camel case first. -/
def spellings (name : String) : List String := firsts [name, snakeCase name]

theorem lookup_spellings (name : String) (fields : Entries) :
    lookup (spellings name) fields =
      (Keyed.find? name fields).or (Keyed.find? (snakeCase name) fields) := by
  by_cases hsame : snakeCase name = name
  · have hone : spellings name = [name] := by simp [spellings, firsts, hsame]
    rw [hone, hsame, Option.or_self]
    simp [lookup]
  · have htwo : spellings name = [name, snakeCase name] := by simp [spellings, firsts, hsame]
    rw [htwo]
    cases hname : Keyed.find? name fields <;> simp [lookup, hname]

/-! ## Entries that were read -/

/-- Whether an entry of a written form has the value that an object has under its name, if the
object has the name in any spelling. -/
def IsTakenFrom (fields : Entries) (entry : String × Value) : Prop :=
  ∀ value, lookup (spellings entry.1) fields = some value → entry.2 = value

section Fields

variable {fields : Entries} {name s : String} {names : List String}

theorem text_eq_some {value : Value} : text value = some s ↔ value = .text s := by
  cases value <;> simp [text]

theorem isTakenFrom_required (hnames : spellings name = names)
    (h : required names text fields = some s) : IsTakenFrom fields (name, .text s) := by
  intro value hvalue
  rw [hnames] at hvalue
  rw [required, hvalue, Option.bind_some, text_eq_some] at h
  exact h.symm

theorem isTakenFrom_text {default : String} (hnames : spellings name = names)
    (h : optional names text default fields = some s) : IsTakenFrom fields (name, .text s) := by
  intro value hvalue
  rw [hnames] at hvalue
  rw [optional, hvalue] at h
  exact (text_eq_some.1 h).symm

theorem isTakenFrom_anything {default value : Value} (hnames : spellings name = names)
    (h : optional names anything default fields = some value) :
    IsTakenFrom fields (name, value) := by
  intro found hfound
  rw [hnames] at hfound
  rw [optional, hfound] at h
  exact (Option.some.inj h).symm

/-- Every kind reads the output under both spellings. -/
theorem isTakenFrom_heading {output : Option String} {heading : Heading}
    (h : headingOf output fields = some heading) :
    ∀ entry ∈ ofHeading heading, IsTakenFrom fields entry := by
  obtain ⟨id, hid, h⟩ := Option.bind_eq_some_iff.1 h
  obtain ⟨name, hname, h⟩ := Option.bind_eq_some_iff.1 h
  have hspelled : spellings "outputField" = ["outputField", "output_field"] := by decide +kernel
  have hout : IsTakenFrom fields ("outputField", .text heading.output) ∧
      heading.id = id ∧ heading.name = name := by
    cases output with
    | none =>
      obtain ⟨out, hout, h⟩ := Option.bind_eq_some_iff.1 h
      obtain rfl := Option.some.inj h
      exact ⟨isTakenFrom_required hspelled hout, rfl, rfl⟩
    | some default =>
      obtain ⟨out, hout, h⟩ := Option.bind_eq_some_iff.1 h
      obtain rfl := Option.some.inj h
      exact ⟨isTakenFrom_text hspelled hout, rfl, rfl⟩
  obtain ⟨hout, rfl, rfl⟩ := hout
  simp only [ofHeading, List.forall_mem_cons]
  exact ⟨isTakenFrom_text (by decide +kernel) hid, isTakenFrom_text (by decide +kernel) hname,
    hout, List.forall_mem_nil _⟩

theorem isTakenFrom_baseField (h : baseField fields = some s) :
    IsTakenFrom fields ("baseField", .text s) :=
  isTakenFrom_text (by decide +kernel) h

/-- The entries of a rule, except for its type. -/
theorem isTakenFrom_rule {kind : CalculationKind} {r : Rule} (h : rule fields kind = some r) :
    ∀ entry ∈ ofRule r, IsTakenFrom fields entry := by
  cases kind with
  | arithmetic =>
    obtain ⟨expression, hexpression, h⟩ := Option.bind_eq_some_iff.1 h
    obtain rfl := Option.some.inj h
    simp only [ofRule, List.forall_mem_cons]
    exact ⟨isTakenFrom_text (by decide +kernel) hexpression, List.forall_mem_nil _⟩
  | variance percentage =>
    obtain ⟨minuend, hminuend, h⟩ := Option.bind_eq_some_iff.1 h
    obtain ⟨subtrahend, hsubtrahend, h⟩ := Option.bind_eq_some_iff.1 h
    obtain rfl := Option.some.inj h
    simp only [ofRule, List.forall_mem_cons]
    exact ⟨isTakenFrom_text (by decide +kernel) hminuend,
      isTakenFrom_text (by decide +kernel) hsubtrahend, List.forall_mem_nil _⟩
  | change period =>
    obtain ⟨field, hfield, h⟩ := Option.bind_eq_some_iff.1 h
    obtain rfl := Option.some.inj h
    simp only [ofRule, List.forall_mem_cons]
    exact ⟨isTakenFrom_baseField hfield, List.forall_mem_nil _⟩
  | rolling =>
    obtain ⟨field, hfield, h⟩ := Option.bind_eq_some_iff.1 h
    obtain ⟨window, hwindow, h⟩ := Option.bind_eq_some_iff.1 h
    obtain rfl := Option.some.inj h
    simp only [ofRule, List.forall_mem_cons]
    exact ⟨isTakenFrom_baseField hfield, isTakenFrom_anything (by decide +kernel) hwindow,
      List.forall_mem_nil _⟩
  | yearToDate =>
    obtain ⟨field, hfield, h⟩ := Option.bind_eq_some_iff.1 h
    obtain rfl := Option.some.inj h
    simp only [ofRule, List.forall_mem_cons]
    exact ⟨isTakenFrom_baseField hfield, List.forall_mem_nil _⟩
  | choice =>
    obtain ⟨condition, hcondition, h⟩ := Option.bind_eq_some_iff.1 h
    obtain ⟨yes, hyes, h⟩ := Option.bind_eq_some_iff.1 h
    obtain ⟨no, hno, h⟩ := Option.bind_eq_some_iff.1 h
    obtain rfl := Option.some.inj h
    obtain ⟨field, hfield, h⟩ := Option.bind_eq_some_iff.1 hcondition
    obtain ⟨operator, hoperator, h⟩ := Option.bind_eq_some_iff.1 h
    obtain ⟨operand, hoperand, h⟩ := Option.bind_eq_some_iff.1 h
    obtain rfl := Option.some.inj h
    simp only [ofRule, List.forall_mem_cons]
    exact ⟨isTakenFrom_text (by decide +kernel) hfield,
      isTakenFrom_text (by decide +kernel) hoperator,
      isTakenFrom_anything (by decide +kernel) hoperand,
      isTakenFrom_anything (by decide +kernel) hyes,
      isTakenFrom_anything (by decide +kernel) hno, List.forall_mem_nil _⟩
  | rank =>
    obtain ⟨field, hfield, h⟩ := Option.bind_eq_some_iff.1 h
    obtain rfl := Option.some.inj h
    simp only [ofRule, List.forall_mem_cons]
    exact ⟨isTakenFrom_text (by decide +kernel) hfield, List.forall_mem_nil _⟩
  | unsupported =>
    obtain ⟨type, -, h⟩ := Option.bind_eq_some_iff.1 h
    obtain rfl := Option.some.inj h
    exact List.forall_mem_nil _

/-- A rule has the type of its kind. -/
theorem typeName_of_rule {kind : CalculationKind} {r : Rule} (h : rule fields kind = some r)
    (hkind : kind ≠ .unsupported) (type : String) :
    r.typeName = (kind.plainRule type).typeName := by
  cases kind with
  | unsupported => exact absurd rfl hkind
  | _ =>
    simp only [rule, Option.bind_eq_bind, Option.bind_eq_some_iff, Option.pure_def,
      Option.some.injEq] at h
    grind [Rule.typeName, CalculationKind.plainRule]

/-- The kind goes by the outer type, and where there is one, that is the type of the rule. -/
theorem isTakenFrom_type {r : Rule} (h : rule (lifted fields) (calculationKind fields) = some r) :
    IsTakenFrom (lifted fields) ("type", .text r.typeName) := by
  have hspelled : spellings "type" = ["type"] := by decide +kernel
  intro value hvalue
  simp only [hspelled, lookup, List.findSome?_singleton] at hvalue
  by_cases hkind : calculationKind fields = .unsupported
  · rw [hkind, rule_unsupported] at h
    obtain ⟨type, htype, rfl⟩ := h
    exact Option.some.inj (htype.symm.trans hvalue)
  · obtain ⟨type, htype, hname⟩ : ∃ type, Keyed.find? "type" fields = some (.text type) ∧
        calculationKind fields = .ofName type := by
      rw [calculationKind] at hkind ⊢
      split at hkind
      · next type htype => exact ⟨type, htype, rfl⟩
      · exact absurd rfl hkind
    rw [find?_lifted (by decide), htype, Option.some_or] at hvalue
    rw [typeName_of_rule h hkind type, hname]
    exact (congrArg Value.text (typeName_plainRule type)).trans (Option.some.inj hvalue)

/-- **What a calculation was read with stands in its object**, where the outer entries come before
the inner ones and every name has its spellings. -/
theorem isTakenFrom_calculation {c : Calculation} (h : calculation (.object fields) = some c) :
    ∀ entry ∈ entriesOf c, IsTakenFrom (lifted fields) entry := by
  obtain ⟨heading, hheading, h⟩ := Option.bind_eq_some_iff.1 h
  obtain ⟨r, hrule, h⟩ := Option.bind_eq_some_iff.1 h
  obtain rfl := Option.some.inj h
  rw [entriesOf, List.forall_mem_append, List.forall_mem_cons]
  exact ⟨isTakenFrom_heading hheading, isTakenFrom_type hrule, isTakenFrom_rule hrule⟩

end Fields

/-! ## Outer and inner entries -/

/-- Whether an entry of the inner object comes before what the outer one has for a field: it is in
camel case, and the outer one is not. -/
def Overrides (fields : Entries) (name : String) (inner : Value) : Prop :=
  Keyed.find? name fields = none ∧ Keyed.find? name (innerOf fields) = some inner

/-- No field is named as the inner object is. -/
theorem ne_config_of_mem_entriesOf {c : Calculation} {entry : String × Value}
    (h : entry ∈ entriesOf c) : entry.1 ≠ "config" ∧ snakeCase entry.1 ≠ "config" := by
  revert entry
  obtain ⟨id, name, output, r⟩ := c
  cases r <;> simp only [entriesOf, ofHeading, ofRule, List.cons_append, List.nil_append,
    List.forall_mem_cons] <;> decide +kernel

/-- **Outer entries count before inner ones, spelling by spelling.** Whatever a calculation was read
from, a field that the outer object has in any spelling comes from there, and from the entry in
camel case if there is one, unless the outer object has the field in snake case only and the inner
one has it in camel case. Then it comes from the inner one. -/
theorem calculation_outer_first {fields : Entries} {c : Calculation}
    (h : calculation (.object fields) = some c) {name : String} {value outer : Value}
    (hvalue : (name, value) ∈ entriesOf c) (houter : lookup (spellings name) fields = some outer) :
    ((∀ inner, ¬ Overrides fields name inner) → value = outer) ∧
    ∀ inner, Overrides fields name inner → value = inner := by
  have htaken := isTakenFrom_calculation h _ hvalue
  obtain ⟨hname, hsnake⟩ := ne_config_of_mem_entriesOf hvalue
  rw [IsTakenFrom, lookup_spellings, find?_lifted hname, find?_lifted hsnake] at htaken
  rw [lookup_spellings] at houter
  constructor
  · intro hkept
    refine htaken outer ?_
    cases hcamel : Keyed.find? name fields with
    | some found => simpa [hcamel] using houter
    | none =>
      have hinner : Keyed.find? name (innerOf fields) = none :=
        Option.eq_none_iff_forall_ne_some.2 fun inner hinner => hkept inner ⟨hcamel, hinner⟩
      rw [hcamel, Option.none_or] at houter
      simp [hinner, houter]
  · rintro inner ⟨hcamel, hinner⟩
    exact htaken inner (by simp [hcamel, hinner])

/-- A rolling sum whose field stands outside in both spellings and inside in one. -/
def spelledObject : Entries :=
  [("type", .text "ROLLING"), ("base_field", .text "Cost"), ("baseField", .text "Sales"),
    ("output_field", .text "Rolling"),
    ("config", .object [("base_field", .text "Tax"), ("window", .int 2), ("type", .text "RANK")])]

theorem calculation_outer_first_spelled :
    calculation (.object spelledObject) = some ⟨"", "", "Rolling", .rolling "Sales" (.int 2)⟩ ∧
    lookup (spellings "baseField") spelledObject = some (.text "Sales") ∧
    ∀ value, ("baseField", value) ∈ entriesOf ⟨"", "", "Rolling", .rolling "Sales" (.int 2)⟩ →
      value = .text "Sales" := by
  have hread : calculation (.object spelledObject) =
      some ⟨"", "", "Rolling", .rolling "Sales" (.int 2)⟩ := rfl
  have houter : lookup (spellings "baseField") spelledObject = some (.text "Sales") := by
    decide +kernel
  have hkept : ∀ inner, ¬ Overrides spelledObject "baseField" inner := by
    rintro inner ⟨-, hinner⟩
    cases hinner
  exact ⟨hread, houter, fun value hvalue =>
    (calculation_outer_first hread hvalue houter).1 hkept⟩

/-- A rank whose output has one spelling outside and the other inside. -/
def respelledObject : Entries :=
  [("type", .text "RANK"), ("output_field", .text "Place"),
    ("config", .object [("outputField", .text "Rank")])]

/-- An inner entry in camel case counts before an outer one in snake case. -/
theorem exists_outer_overridden :
    ¬ ∀ fields c name value outer, calculation (.object fields) = some c →
      (name, value) ∈ entriesOf c → lookup (spellings name) fields = some outer →
      value = outer := by
  intro h
  have hread : calculation (.object respelledObject) = some ⟨"", "", "Rank", .rank ""⟩ := rfl
  have hvalue : ("outputField", Value.text "Rank") ∈ entriesOf ⟨"", "", "Rank", .rank ""⟩ := by
    simp [entriesOf, ofHeading]
  have houter : lookup (spellings "outputField") respelledObject = some (.text "Place") := by
    decide +kernel
  exact absurd (h _ _ _ _ _ hread hvalue houter) (by decide)

end Reporting.Wire
