import Reporting.Basic

/-!
# Refusals

Why a request is not served, with the status and the wording of the answer.
-/

namespace Reporting

/-- Why a request is not served. -/
inductive Refusal
  | missingHeader (name : String)
  /-- Only administrators may register datasets. -/
  | notAdministrator
  | unreadableCsv
  | tooManyRows (count : Nat) (limit : Int)
  | columnNotFound (name : String)
  /-- The principal may not build on these datasets. -/
  | noBuildAccess (ids : List String)
  /-- A failure that the answer names. -/
  | failed (failure : Failure)
  /-- A run that broke off for a reason that the answer does not tell. -/
  | runFailed
  deriving DecidableEq, Repr

namespace Refusal

/-- The status of a failure that speaks to a user. -/
def failureStatus : Failure → Nat
  | .noDatasets => 403
  | .reportNotFound _ => 404
  | _ => 400

/-- The status of the answer. -/
def status : Refusal → Nat
  | .missingHeader _ => 400
  | .notAdministrator => 403
  | .unreadableCsv => 400
  | .tooManyRows _ _ => 413
  | .columnNotFound _ => 400
  | .noBuildAccess _ => 403
  | .failed failure => failureStatus failure
  | .runFailed => 500

/-- The wording of the answer. -/
def message : Refusal → String
  | .missingHeader name => "Missing " ++ name ++ " header."
  | .notAdministrator => "Only administrators can register datasets."
  | .unreadableCsv => "Failed to read CSV"
  | .tooManyRows count limit =>
    "CSV has " ++ toString count ++ " rows; the limit is " ++ toString limit ++ "."
  | .columnNotFound name => "Column '" ++ name ++ "' not found in CSV."
  | .noBuildAccess ids =>
    "Missing BUILD permission for datasets: " ++ String.intercalate ", " ids
  | .failed failure => failure.message?.getD ""
  | .runFailed => "Report run failed"

/-- The refusal of a request whose run failed. Failures without a wording are not told apart. -/
def ofRun (failure : Failure) : Refusal :=
  if failure.message?.isSome then .failed failure else .runFailed

end Refusal

end Reporting
