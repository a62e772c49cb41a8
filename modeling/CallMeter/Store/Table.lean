import CallMeter.Json.Printer
import CallMeter.Store.Basic
import CallMeter.Text.Sorted

/-!
# The table store

Rows with the tenant and the start lifted out of the item, which is kept as JSON text. A tenant
has one row for each record id. The rows stand in the order of start and id, and a page takes
the next rows after the key of its cursor, so that rows written meanwhile move no others. A full
page names the key of its last row as the next cursor.

## Main definitions

* `Row`, `TableStore`: the rows
* `TableStore.insert`, `TableStore.add`, `TableStore.deploy`: writing
* `RowKey.encode`, `RowKey.decode?`: cursors
* `TableStore.select`, `TableStore.queryPage`, `TableStore.batch`: reading

## Main results

* `rows_queryPage`: a page read leaves the rows alone
-/

namespace CallMeter

/-- **Row**: a stored item with its tenant, record id and start. -/
structure Row where
  tenant : String
  id : String
  startedAt : String
  item : String
  deriving DecidableEq

/-- **Key** in the order of a scan: the start, then the record id. -/
structure RowKey where
  startedAt : String
  id : String
  deriving DecidableEq

/-- The key of a row. -/
def Row.key (r : Row) : RowKey :=
  ⟨r.startedAt, r.id⟩

namespace RowKey

/-- The order of keys. -/
def before (a b : RowKey) : Bool :=
  a.startedAt < b.startedAt || (a.startedAt == b.startedAt && a.id < b.id)

/-- The key before all others, where a scan starts. -/
def origin : RowKey :=
  ⟨"", ""⟩

/-- The cursor of a key: a JSON array of its two texts. -/
def encode (k : RowKey) : String :=
  Json.compact (.array [.string k.startedAt, .string k.id])

/-- The key of a cursor. -/
def decode? (cursor : String) : Option RowKey :=
  match Json.parse? cursor with
  | some (.array [.string startedAt, .string id]) => some ⟨startedAt, id⟩
  | _ => none

end RowKey

/-- **Table store**. -/
structure TableStore where
  /-- The rows in the order of their keys. -/
  rows : List Row
  deployments : Deployments
  pageSize : Nat
  pageSize_pos : 0 < pageSize := by omega

/-- A row put in front of the first one that it does not come after. -/
def insertOrdered (row : Row) : List Row → List Row
  | [] => [row]
  | r :: rest => if r.key.before row.key then r :: insertOrdered row rest else row :: r :: rest

namespace TableStore

/-- The page size where none is given. -/
def defaultPageSize : Nat := 500

/-- The empty table with pages of `pageSize` rows, at least one. -/
def empty (pageSize : Nat) : TableStore where
  rows := []
  deployments := []
  pageSize := max pageSize 1

variable (s : TableStore)

/-- A row of a tenant, in place of an earlier one with the same record id. -/
def insert (row : Row) : TableStore :=
  { s with
    rows := insertOrdered row (s.rows.filter fun r => !(r.tenant == row.tenant && r.id == row.id)) }

/-- An item of a tenant under a record id. -/
def add (tenant id : String) (item : Json) : TableStore :=
  s.insert ⟨tenant, id, (startOf? item).getD "", item.compact⟩

/-- A deployment of a tenant, in place of an earlier one. -/
def deploy (tenant : String) (d : Deployment) : TableStore :=
  { s with deployments := s.deployments.add tenant d }

/-- **The rows of a query** after a key, in order. -/
def select (q : RecordQuery) (after : RowKey) : List Row :=
  s.rows.filter fun r => r.tenant == q.tenant && q.covers r.startedAt && after.before r.key

/-- The page of the first `pageSize` rows. -/
def page (rows : List Row) (pageSize : Nat) : RecordPage :=
  -- a full page may be the last one, which the next page then shows by being empty
  let taken := rows.take pageSize
  { records := taken.filterMap fun r => CallRecord.ofText? r.item
    next := if taken.length = pageSize then taken.getLast?.map fun r => r.key.encode else none }

/-- The key after which a page starts. -/
def position : Option String → Except StoreFault RowKey
  | none => .ok .origin
  | some cursor =>
    match RowKey.decode? cursor with
    | some key => .ok key
    | none => .error (.badCursor cursor)

/-- **A page read**. -/
def queryPage (q : RecordQuery) (cursor : Option String) :
    Except StoreFault RecordPage × TableStore :=
  ((position cursor).map fun key => page (s.select q key) s.pageSize, s)

/-- **A batch read**: the deployments of the ids that have one, each once, in order of the
ids. -/
def batch (tenant : String) (ids : List String) :
    Except StoreFault (List Deployment) × TableStore :=
  if maxBatchKeys < ids.length then (.error (.oversizedBatch ids.length), s)
  else (.ok ((Text.sortedUnique ids).filterMap fun id => s.deployments.find? tenant id), s)

instance : CallStore TableStore where
  queryPage := queryPage
  batch := batch
  held s := s.rows.length

@[simp] theorem rows_queryPage (q : RecordQuery) (cursor : Option String) :
    (s.queryPage q cursor).2 = s := rfl

end TableStore

end CallMeter
