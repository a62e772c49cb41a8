import CallMeter.Store.Basic

/-!
# The memory store

Items in the order in which they were added. A page sorts the items of the window by their
start, keeping the order of equal starts, and cuts out a slice; its cursor is the offset of the
next slice in decimal digits. Page reads are numbered over the life of the store, and one of
them can be made to fail.

## Main definitions

* `MemoryStore`, `MemoryStore.empty`: the store
* `MemoryStore.add`, `MemoryStore.deploy`: writing
* `MemoryStore.matching`: the items of a query in order
* `MemoryStore.queryPage`, `MemoryStore.batch`: reading

## Main results

* `items_queryPage`, `deployments_queryPage`: a page read leaves the data alone
-/

namespace CallMeter

/-- The number of items that no list in memory reaches, since it has fewer than `2 ^ 63` bytes. -/
def itemLimit : Nat := UInt64.size / 2

/-- **Memory store**. -/
structure MemoryStore where
  items : List (String × Json)
  deployments : Deployments
  /-- The page reads so far, failed ones included. -/
  pagesServed : Nat
  /-- The sizes of the batch reads so far. -/
  batchSizes : List Nat
  pageSize : Nat
  /-- The number of the page read that fails. -/
  failOnPage : Option Nat
  pageSize_pos : 0 < pageSize
  /-- A page size is a 64-bit word, as the offsets are. -/
  pageSize_lt : pageSize < UInt64.size
  items_lt : items.length < itemLimit

namespace MemoryStore

/-- The page size where none is given. -/
def defaultPageSize : UInt64 := 100

/-- The empty store with pages of `pageSize` items, at least one. -/
def empty (pageSize : UInt64) (failOnPage : Option Nat) : MemoryStore where
  items := []
  deployments := []
  pagesServed := 0
  batchSizes := []
  pageSize := max pageSize.toNat 1
  failOnPage := failOnPage
  pageSize_pos := by omega
  pageSize_lt := Nat.max_lt.2 ⟨pageSize.toNat_lt, by decide⟩
  items_lt := by decide

variable (s : MemoryStore)

/-- One more item of a tenant. A list that can grow no further stays as it is. -/
def add (tenant : String) (item : Json) : MemoryStore :=
  if room : s.items.length + 1 < itemLimit then
    { s with
      items := s.items ++ [(tenant, item)]
      items_lt := by simpa using room }
  else s

/-- A deployment of a tenant, in place of an earlier one. -/
def deploy (tenant : String) (d : Deployment) : MemoryStore :=
  { s with deployments := s.deployments.add tenant d }

/-- An item of the query with its start. -/
def stamped? (q : RecordQuery) (entry : String × Json) : Option (String × Json) :=
  if entry.1 = q.tenant then
    ((startOf? entry.2).filter q.covers).map fun start => (start, entry.2)
  else none

/-- **The items of a query** with their starts, in stable order of the starts. -/
def matching (q : RecordQuery) : List (String × Json) :=
  (s.items.filterMap (stamped? q)).mergeSort fun a b => a.1 ≤ b.1

/-- The offset that a cursor denotes, a 64-bit word. -/
def offset : Option String → Except StoreFault Nat
  | none => .ok 0
  | some cursor =>
    match Decimal.readWord? cursor.toList with
    | some n => .ok n.toNat
    | none => .error (.badCursor cursor)

/-- The page of `pageSize` items from `offset` on. -/
def slice (items : List (String × Json)) (pageSize offset : Nat) : Except StoreFault RecordPage :=
  -- the end of the page has to be an offset too, however few items there are
  if offset + pageSize < UInt64.size then
    let stop := min (offset + pageSize) items.length
    .ok {
      records := ((items.drop offset).take (stop - offset)).filterMap fun e =>
        CallRecord.ofItem? e.2
      next := if stop < items.length then some (Decimal.text stop) else none }
  else .error .offsetOverflow

/-- **A page read**. It counts whether it succeeds or not. -/
def queryPage (q : RecordQuery) (cursor : Option String) :
    Except StoreFault RecordPage × MemoryStore :=
  let served := s.pagesServed + 1
  let result :=
    if s.failOnPage = some served then .error (.simulated served)
    else (offset cursor).bind (slice (s.matching q) s.pageSize)
  (result, { s with pagesServed := served })

/-- **A batch read**: the deployments of the ids that have one, in the order of the ids. -/
def batch (tenant : String) (ids : List String) :
    Except StoreFault (List Deployment) × MemoryStore :=
  if maxBatchKeys < ids.length then (.error (.oversizedBatch ids.length), s)
  else
    (.ok (ids.filterMap fun id => s.deployments.find? tenant id),
      { s with batchSizes := s.batchSizes ++ [ids.length] })

instance : CallStore MemoryStore where
  queryPage := queryPage
  batch := batch
  held s := s.items.length

@[simp] theorem failOnPage_add (tenant : String) (item : Json) :
    (s.add tenant item).failOnPage = s.failOnPage := by
  rw [add]
  split <;> rfl

@[simp] theorem deployments_add (tenant : String) (item : Json) :
    (s.add tenant item).deployments = s.deployments := by
  rw [add]
  split <;> rfl

@[simp] theorem items_queryPage (q : RecordQuery) (cursor : Option String) :
    (s.queryPage q cursor).2.items = s.items := rfl

@[simp] theorem deployments_queryPage (q : RecordQuery) (cursor : Option String) :
    (s.queryPage q cursor).2.deployments = s.deployments := rfl

end MemoryStore

end CallMeter
