import CallMeter.Files.Entry
import CallMeter.Text.Utf8

/-!
# Archives

The database file of a table store is a JSON document with its rows and its deployments. The
size of pages belongs to the settings and is not kept.

## Main definitions

* `TableStore.archive`: the text of a database file
* `TableStore.ofArchive?`: the store of a text
* `FileEntry.ofBytes`: what the bytes of a file hold
-/

namespace CallMeter

/-- A row as JSON. -/
def Row.toJson (r : Row) : Json :=
  .array [.string r.tenant, .string r.id, .string r.startedAt, .string r.item]

/-- The row of a JSON value. -/
def Row.ofJson? : Json → Option Row
  | .array [.string tenant, .string id, .string startedAt, .string item] =>
    some ⟨tenant, id, startedAt, item⟩
  | _ => none

theorem Row.ofJson?_toJson (r : Row) : ofJson? r.toJson = some r := rfl

/-- A deployment of a tenant as JSON. -/
def deploymentJson (tenant : String) (d : Deployment) : Json :=
  .array [.string tenant, .string d.useCase, .ofOption .string d.displayName,
    .ofOption .string d.modelHint, .ofOption .string d.modelId]

/-- The tenant and deployment of a JSON value. -/
def deploymentOf? : Json → Option (String × Deployment)
  | .array [.string tenant, .string useCase, name, hint, model] =>
    some (tenant, ⟨useCase, name.text?, hint.text?, model.text?⟩)
  | _ => none

theorem deploymentOf?_deploymentJson (tenant : String) (d : Deployment) :
    deploymentOf? (deploymentJson tenant d) = some (tenant, d) := by
  obtain ⟨useCase, name, hint, model⟩ := d
  cases name <;> cases hint <;> cases model <;> rfl

namespace TableStore

/-- **The text of a database file.** -/
def archive (s : TableStore) : String :=
  Json.compact (.object [
    ("rows", .array (s.rows.map Row.toJson)),
    ("deployments", .array (s.deployments.map fun e => deploymentJson e.1.1 e.2))]) ++ "\n"

/-- **The store of a text**, if it is the text of a database file. -/
def ofArchive? (text : String) : Option TableStore := do
  match ← Json.parse? text with
  | .object [("rows", .array rows), ("deployments", .array deployments)] => do
    let rows ← rows.mapM Row.ofJson?
    let deployments ← deployments.mapM deploymentOf?
    let s := rows.foldl insert (empty defaultPageSize)
    return deployments.foldl (fun s e => s.deploy e.1 e.2) s
  | _ => none

end TableStore

/-- **What the bytes of a file hold.** -/
def FileEntry.ofBytes (bytes : ByteArray) : FileEntry :=
  match Text.Utf8.decode? bytes.toList with
  | none => .binary
  | some content =>
    match TableStore.ofArchive? content with
    | some s => .database s
    | none => .text content

end CallMeter
