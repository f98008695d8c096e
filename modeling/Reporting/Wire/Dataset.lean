import Reporting.Dataset
import Reporting.Wire.Reader

/-!
# Datasets on the wire

The wire objects of principals, permissions and dataset definitions, and of a dataset together with
its sheet.
-/

namespace Reporting

/-- The name of an access. -/
def Access.name : Access → String
  | .view => "VIEW"
  | .build => "BUILD"

/-- The accesses. -/
def Access.all : List Access := [.view, .build]

/-- The access with a name. -/
def Access.ofName? (name : String) : Option Access := Access.all.find? fun a => a.name = name

/-- A dataset and what its sheet holds, if it has one: the number of rows and the columns with the
names of their kinds. -/
structure DatasetSummary where
  dataset : Dataset
  content : Option (Nat × List (String × String))

namespace Wire

/-! ## Reading -/

/-- A principal; without a role it is a basic user. -/
def principal : Reader Principal := fun value => do
  let fields ← entries value
  return {
    id := ← required ["id"] text fields
    email := ← optional ["email"] (nullable text) none fields
    role := ← optional ["roleType", "role_type"] text "BASIC_USER" fields }

/-- A permission; without a level it allows to view. -/
def permission : Reader Permission := fun value => do
  let fields ← entries value
  return {
    roles := ← optional ["roleTypes", "role_types"] (list text) [] fields
    access := ← optional ["level"] (choice Access.name Access.all) .view fields }

/-- The names of the time of a dataset's last update. -/
def updateNames : List String := ["updatedAt", "updated_at"]

/-- A dataset definition; without a time of its own it carries the stamp. -/
def dataset (stamp : String) : Reader Dataset := fun value => do
  let fields ← entries value
  return {
    id := ← required ["datasetId", "dataset_id"] text fields
    name := ← optional ["datasetName", "dataset_name"] text "" fields
    description := ← optional ["description"] text "" fields
    primaryKeys := ← optional ["primaryKeys", "primary_keys"] (list text) [] fields
    permissions := ← optional ["permissions"] (list permission) [] fields
    fiscalDateField := ← optional ["fiscalDateField", "fiscal_date_field"] (nullable text) none
      fields
    updatedAt := ← optional updateNames text stamp fields }

/-- A dataset definition. A stamp is asked for only where the object tells no time of its own. -/
def datasetStamped (stamp : Outcome String) (value : Value) : Outcome (Option Dataset) :=
  match (entries value).map (lookup updateNames) with
  | some none => do return dataset (← stamp) value
  | _ => .ok (dataset "" value)

/-! ## Writing -/

/-- The object of a principal. -/
def ofPrincipal (p : Principal) : Value :=
  .object [("id", .text p.id), ("email", ofText? p.email), ("roleType", .text p.role)]

/-- The object of a permission. -/
def ofPermission (p : Permission) : Value :=
  .object [("roleTypes", ofTexts p.roles), ("level", .text p.access.name)]

/-- The entries of a dataset definition. -/
def datasetEntries (d : Dataset) : Entries :=
  [("datasetId", .text d.id), ("datasetName", .text d.name), ("description", .text d.description),
    ("primaryKeys", ofTexts d.primaryKeys),
    ("permissions", .list (d.permissions.map ofPermission)),
    ("fiscalDateField", ofText? d.fiscalDateField), ("updatedAt", .text d.updatedAt)]

/-- The object of a dataset definition. -/
def ofDataset (d : Dataset) : Value := .object (datasetEntries d)

/-- The entries that tell what a sheet holds. -/
def contentEntries (content : Nat × List (String × String)) : Entries :=
  [("rows", .int content.1),
    ("fields", .list (content.2.map fun field =>
      .object [("name", .text field.1), ("type", .text field.2)]))]

/-- The object of a dataset with its sheet. -/
def ofDatasetSummary (s : DatasetSummary) : Value :=
  .object (datasetEntries s.dataset ++ s.content.elim [] contentEntries)

end Wire

end Reporting
