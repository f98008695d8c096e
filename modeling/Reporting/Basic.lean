/-!
# Powers and failures

Powers and zeros of integers are those of the core library, whatever more general ones a module
imports beside this one. What can stop an evaluation, a load or a run is a `Failure`: each
constructor is a cause; its wording, where it has one, is in `Failure.message?`.
-/

namespace Reporting

@[default_instance 20000]
instance (priority := high) natPow : Pow Nat Nat := instPowNat

@[default_instance 20000]
instance (priority := high) intPow : Pow Int Nat := instPowNat

instance (priority := high) natZero : Zero Nat := Zero.ofOfNat0

instance (priority := high) intZero : Zero Int := Zero.ofOfNat0

/-- The causes for which an operation has no result. -/
inductive Failure
  /-- An integer, or a quotient of integers, too large for a double. -/
  | overflow
  /-- An integer, or a number with decimal places, has too many digits to be written out. -/
  | tooManyDigits
  /-- A clock without an offset from UTC stands on the first day of the calendar, where no zone can
  be told. -/
  | unknownZone
  /-- A text with a null character reached the collation of a sort. -/
  | collation
  /-- A table that is to be loaded has a column of the reserved name. -/
  | reservedColumn
  /-- Several columns of a table share a name that is to tell one of them. -/
  | ambiguousColumn
  /-- Several columns of a table share the name of its dates. -/
  | ambiguousDates
  /-- A definition without views was asked for one. -/
  | noViews
  /-- None of a report's datasets may be read. -/
  | noDatasets
  /-- A header cannot carry the name of a file. -/
  | unsendableName
  /-- No report of this id, or none that may be seen. -/
  | reportNotFound (id : String)
  deriving DecidableEq, Repr

/-- The wording of the failures that speak to a user. -/
def Failure.message? : Failure → Option String
  | .overflow | .tooManyDigits | .unknownZone | .collation => none
  | .reservedColumn | .ambiguousColumn | .ambiguousDates | .unsendableName => none
  | .noViews => some "Report definition has no views."
  | .noDatasets => some "No permitted datasets available for this report."
  | .reportNotFound id => some ("Report '" ++ id ++ "' not found.")

/-- A result, or the failure that prevents it. -/
abbrev Outcome (α : Type) := Except Failure α

instance {α : Type} [DecidableEq α] : DecidableEq (Outcome α)
  | .ok a, .ok b => decidable_of_iff (a = b) ⟨congrArg _, Except.ok.inj⟩
  | .error f, .error g => decidable_of_iff (f = g) ⟨congrArg _, Except.error.inj⟩
  | .ok _, .error _ => isFalse nofun
  | .error _, .ok _ => isFalse nofun

/-- The result if there is one, and the failure otherwise. -/
def Outcome.ofOption {α : Type} (failure : Failure) : Option α → Outcome α
  | some a => .ok a
  | none => .error failure

end Reporting
