import CallMeter.Proofs.Store.Keyset
import CallMeter.Proofs.Store.Offset
import CallMeter.Proofs.Store.Profiles

/-!
# Seeded stores

A store is seeded by adding items under record ids and deployments, in any order. The items that
a tenant then holds in a table are those that no later item under the same record id replaced;
under distinct record ids, all of them. A scan of a window reads each of them back from its text.
A memory store holds all items in any case, and both stores hold the same deployments.

## Main definitions

* `Entry`, `Seed`: an item with its tenant and record id, and what is added to a store
* `TableStore.seeded`, `MemoryStore.seeded`: a store after some seeds
* `heldItems`: the items that a tenant holds in a table after some seeds
* `Seed.deployed`: the deployments after some seeds
* `storedRecord?`: the record that a query finds for an item kept as text

## Main results

* `rows_seeded_perm`: the rows of a seeded table are those of the entries that stand
* `heldItems_of_distinct`: under distinct record ids a tenant holds all its items
* `items_seeded`: a seeded memory store holds the items of all entries
* `find?_deployed_own`: the deployments of a tenant come from its own seeds
* `readRecords_seeded`: a scan reads back the items held, up to their order
-/

namespace CallMeter

/-- **Entry**: an item of a tenant with the record id under which a table keeps it. -/
structure Entry where
  tenant : String
  id : String
  item : Json

/-- **Seed**: an item or a deployment that is added to a store. -/
inductive Seed
  | item (entry : Entry)
  | deployment (tenant : String) (deployment : Deployment)

/-- The row of an entry. -/
def Entry.row (e : Entry) : Row :=
  ⟨e.tenant, e.id, startText e.item, e.item.compact⟩

/-- The slot of an entry: an entry replaces the one of the same tenant under the same id. -/
def Entry.slot (e : Entry) : String × String :=
  (e.tenant, e.id)

/-- The entries among some seeds. -/
def Seed.entries : List Seed → List Entry :=
  List.filterMap fun
    | .item entry => some entry
    | .deployment .. => none

/-- The tenant for whom a seed is. -/
def Seed.tenant : Seed → String
  | .item entry => entry.tenant
  | .deployment tenant _ => tenant

/-- The deployments after one seed. -/
def Seed.deploy (ds : Deployments) : Seed → Deployments
  | .item _ => ds
  | .deployment tenant d => ds.add tenant d

/-- **The deployments** after some seeds. -/
def Seed.deployed (seeds : List Seed) : Deployments :=
  seeds.foldl deploy []

theorem Seed.filed_deployed (seeds : List Seed) : (deployed seeds).Filed := by
  induction seeds using List.reverseRecOn with
  | nil => exact Deployments.filed_nil
  | append_singleton seeds op ih =>
    rw [deployed, List.foldl_append]
    cases op with
    | item e => exact ih
    | deployment tenant d => exact ih.add tenant d

/-- **The deployments of a tenant** come from its own seeds. -/
theorem Seed.find?_deployed_own (tenant id : String) (seeds : List Seed) :
    (deployed (seeds.filter fun op => op.tenant = tenant)).find? tenant id =
      (deployed seeds).find? tenant id := by
  induction seeds using List.reverseRecOn with
  | nil => rfl
  | append_singleton seeds op ih =>
    rw [List.filter_append, deployed, deployed, List.foldl_append, List.foldl_append, ← deployed,
      ← deployed]
    by_cases own : op.tenant = tenant
    · rw [List.filter_cons_of_pos (by simp [own]), List.filter_nil]
      cases op with
      | item e => exact ih
      | deployment owner d =>
        simp only [List.foldl_cons, List.foldl_nil, deploy, Deployments.find?_add, ih]
    · rw [List.filter_cons_of_neg (by simp [own]), List.filter_nil, List.foldl_nil, ih]
      cases op with
      | item e => rfl
      | deployment owner d =>
        have other : (owner, d.useCase) ≠ (tenant, id) := fun e => own (Prod.mk.inj e).1
        simp only [List.foldl_cons, List.foldl_nil, deploy, Deployments.find?_add, if_neg other]

/-- The entries of a tenant are those of its own seeds. -/
theorem Seed.entries_own (tenant : String) (seeds : List Seed) :
    entries (seeds.filter fun op => op.tenant = tenant) =
      (entries seeds).filter fun e => e.tenant = tenant := by
  rw [entries, List.filterMap_filter, List.filter_filterMap]
  apply List.filterMap_congr
  intro op _
  cases op with
  | item e => rfl
  | deployment owner d => simp only [Option.filter_none, ite_self]

/-- **The items a tenant holds** after some seeds: those that no later one replaced. -/
def heldItems (tenant : String) (seeds : List Seed) : List Json :=
  ((lastOf Entry.slot (Seed.entries seeds)).filter fun e => e.tenant = tenant).map Entry.item

/-- Only the seeds of a tenant decide what it holds. -/
theorem heldItems_eq (tenant : String) (seeds : List Seed) :
    heldItems tenant seeds =
      (lastOf Entry.slot ((Seed.entries seeds).filter fun e => e.tenant = tenant)).map
        Entry.item := by
  have byTenant (a b : Entry) (h : a.slot = b.slot) :
      decide (a.tenant = tenant) = decide (b.tenant = tenant) := by
    rw [(Prod.mk.inj h).1]
  rw [heldItems, filter_lastOf byTenant]

theorem heldItems_own (tenant : String) (seeds : List Seed) :
    heldItems tenant (seeds.filter fun op => op.tenant = tenant) = heldItems tenant seeds := by
  rw [heldItems_eq, heldItems_eq, Seed.entries_own, List.filter_filter]
  simp only [Bool.and_self]

/-- **Under distinct record ids** a tenant holds all items that were added for it. -/
theorem heldItems_of_distinct {tenant : String} {seeds : List Seed}
    (h : (((Seed.entries seeds).filter fun e => e.tenant = tenant).map Entry.id).Nodup) :
    heldItems tenant seeds =
      ((Seed.entries seeds).filter fun e => e.tenant = tenant).map Entry.item := by
  have slots : (((Seed.entries seeds).filter fun e => e.tenant = tenant).map Entry.slot).Nodup :=
    (List.pairwise_map.mpr ((List.pairwise_map.mp h).imp fun hne e => hne (congrArg Prod.snd e)))
  rw [heldItems_eq, lastOf_of_nodup slots]

namespace TableStore

/-- A table after one seed. -/
def seed (s : TableStore) : Seed → TableStore
  | .item e => s.add e.tenant e.id e.item
  | .deployment tenant d => s.deploy tenant d

/-- **A table after some seeds**, empty before. -/
def seeded (pageSize : Nat) (seeds : List Seed) : TableStore :=
  seeds.foldl seed (empty pageSize)

/-- Seeds write the rows of their entries; deployments leave the rows alone. -/
theorem rows_foldl_seed (s : TableStore) (seeds : List Seed) :
    (seeds.foldl seed s).rows = (s.insertAll ((Seed.entries seeds).map Entry.row)).rows := by
  induction seeds generalizing s with
  | nil => rfl
  | cons op seeds ih =>
    rw [List.foldl_cons, ih]
    cases op with
    | item e => rfl
    | deployment tenant d =>
      exact rows_insertAll_congr (s := s.deploy tenant d) (t := s) rfl _

theorem Tidy.seed {s : TableStore} (h : s.Tidy) (op : Seed) : (s.seed op).Tidy := by
  cases op with
  | item e => exact h.insert e.row
  | deployment tenant d => exact ⟨h.inOrder, h.slots⟩

theorem tidy_seeded (pageSize : Nat) (seeds : List Seed) : (seeded pageSize seeds).Tidy := by
  induction seeds using List.reverseRecOn with
  | nil => exact tidy_empty pageSize
  | append_singleton seeds op ih =>
    rw [seeded, List.foldl_append]
    exact ih.seed op

/-- **The rows of a seeded table** are those of the entries that stand. -/
theorem rows_seeded_perm (pageSize : Nat) (seeds : List Seed) :
    (seeded pageSize seeds).rows.Perm ((lastOf Entry.slot (Seed.entries seeds)).map Entry.row) := by
  have slot : (fun e : Entry => e.row.slot) = Entry.slot := rfl
  rw [seeded, rows_foldl_seed, ← slot, ← lastOf_map]
  exact rows_insertAll_perm pageSize _

@[simp] theorem deployments_seeded (pageSize : Nat) (seeds : List Seed) :
    (seeded pageSize seeds).deployments = Seed.deployed seeds := by
  induction seeds using List.reverseRecOn with
  | nil => rfl
  | append_singleton seeds op ih =>
    rw [seeded, Seed.deployed, List.foldl_append, List.foldl_append, ← seeded, ← Seed.deployed,
      ← ih]
    cases op <;> rfl

end TableStore

namespace MemoryStore

/-- A memory store after one seed. The record id of an entry has no use here. -/
def seed (s : MemoryStore) : Seed → MemoryStore
  | .item e => s.add e.tenant e.item
  | .deployment tenant d => s.deploy tenant d

/-- **A memory store after some seeds**, empty before, none of whose page reads fails. -/
def seeded (pageSize : UInt64) (seeds : List Seed) : MemoryStore :=
  seeds.foldl seed (empty pageSize none)

theorem seeded_append_singleton (pageSize : UInt64) (seeds : List Seed) (op : Seed) :
    seeded pageSize (seeds ++ [op]) = (seeded pageSize seeds).seed op := by
  rw [seeded, List.foldl_append]
  rfl

@[simp] theorem failOnPage_seeded (pageSize : UInt64) (seeds : List Seed) :
    (seeded pageSize seeds).failOnPage = none := by
  induction seeds using List.reverseRecOn with
  | nil => rfl
  | append_singleton seeds op ih =>
    rw [seeded_append_singleton, ← ih]
    cases op with
    | item e => exact failOnPage_add _ e.tenant e.item
    | deployment tenant d => rfl

@[simp] theorem deployments_seeded_memory (pageSize : UInt64) (seeds : List Seed) :
    (seeded pageSize seeds).deployments = Seed.deployed seeds := by
  induction seeds using List.reverseRecOn with
  | nil => rfl
  | append_singleton seeds op ih =>
    rw [seeded_append_singleton, Seed.deployed, List.foldl_append, ← Seed.deployed, ← ih]
    cases op with
    | item e => exact deployments_add _ e.tenant e.item
    | deployment tenant d => rfl

/-- **A seeded memory store holds the items of all entries** that memory has room for. -/
theorem items_seeded (pageSize : UInt64) {seeds : List Seed}
    (room : (Seed.entries seeds).length < itemLimit) :
    (seeded pageSize seeds).items = (Seed.entries seeds).map fun e => (e.tenant, e.item) := by
  induction seeds using List.reverseRecOn with
  | nil => rfl
  | append_singleton seeds op ih =>
    rw [seeded_append_singleton]
    rw [Seed.entries, List.filterMap_append, ← Seed.entries] at room ⊢
    cases op with
    | item e =>
      rw [List.length_append] at room
      have before := ih (Nat.lt_of_le_of_lt (Nat.le_add_right _ _) room)
      have more : (seeded pageSize seeds).items.length + 1 < itemLimit := by
        rw [before, List.length_map]
        exact room
      rw [List.map_append, ← before, seed, add, dif_pos more]
      rfl
    | deployment tenant d =>
      have same : Seed.entries [.deployment tenant d] = [] := rfl
      rw [same, List.append_nil] at room ⊢
      exact ih room

/-- The items of a tenant in a seeded memory store. -/
theorem itemsOf_seeded (pageSize : UInt64) {seeds : List Seed}
    (room : (Seed.entries seeds).length < itemLimit) (tenant : String) :
    itemsOf tenant (seeded pageSize seeds).items =
      ((Seed.entries seeds).filter fun e => e.tenant = tenant).map Entry.item := by
  rw [items_seeded pageSize room, itemsOf, List.filter_map, List.map_map]
  rfl

end MemoryStore

/-! ## Reading back -/

/-- The record that a query finds for an item of its tenant that is kept as text. -/
def storedRecord? (q : RecordQuery) (item : Json) : Option CallRecord :=
  if q.covers (startText item) then CallRecord.ofText? item.compact else none

/-- A window that does not start at the empty text covers the starts of the items it wants. -/
theorem RecordQuery.covers_startText {q : RecordQuery} (h : q.startIso ≠ "") (item : Json) :
    q.covers (startText item) = q.wants item := by
  rw [startText, wants]
  cases startOf? item with
  | some start => rfl
  | none =>
    have early : ¬ q.startIso ≤ "" := not_le.mpr ((RowKey.empty_lt_iff q.startIso).mpr h)
    simp [covers, early]

/-- The rows of a query in a window that does not start at the empty text. -/
theorem TableStore.select_origin {q : RecordQuery} (h : q.startIso ≠ "") (s : TableStore) :
    s.select q .origin = (s.rows.filter fun r => r.tenant = q.tenant).filter fun r =>
      q.covers r.startedAt := by
  unfold select
  rw [List.filter_filter]
  apply List.filter_congr
  intro r _
  cases hc : q.covers r.startedAt with
  | false => simp
  | true =>
    rw [origin_before_of_covers h hc, Bool.and_true, Bool.and_true, Bool.true_and]
    rfl

/-- **A scan of a seeded table** reads the items that the tenant holds back from their texts. -/
theorem TableStore.readRecords_seeded {q : RecordQuery} (h : q.startIso ≠ "") (pageSize : Nat)
    (seeds : List Seed) :
    ∃ records, readRecords (seeded pageSize seeds) q = (.ok records, seeded pageSize seeds) ∧
      records.Perm ((heldItems q.tenant seeds).filterMap (storedRecord? q)) := by
  refine ⟨_, (tidy_seeded pageSize seeds).readRecords_select q, ?_⟩
  rw [select_origin h]
  refine (((rows_seeded_perm pageSize seeds).filter _).filter _).filterMap _ |>.trans (.of_eq ?_)
  rw [heldItems, List.filter_map, List.filter_map, List.filterMap_map, List.filterMap_map,
    List.filterMap_filter]
  exact List.filterMap_congr fun e _ => rfl

end CallMeter
