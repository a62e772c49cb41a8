import CallMeter.Proofs.Store.Failures
import CallMeter.Proofs.Usage.Locality
import CallMeter.Proofs.Usage.Windows

/-!
# Dated records

A store keeps the start of a record beside the record: memory inside the item, a table in a
column of its own. What a query reads are the records whose stored start lies in its window. In
the window of some days no stored start is blank, so there it is the start that the record shows.

## Main definitions

* `DatedRecord`, `DatedRecord.Sound`: a record with its stored start, and that both agree
* `RecordQuery.inWindow`: the records whose stored start lies in a window
* `HoldsDated`: a store reads the records that a window selects from dated ones
* `CallRecord.InWindow`: a record with a use case and a start fit for a summary

## Main results

* `holdsDated_memory`, `holdsDated_seeded`: both stores hold dated records
* `Portal.summaryAt_of_window`: an answer about the last days is one about their window
-/

namespace CallMeter

open Pricing (RateCard)

/-- **Dated record**: a record with the start that was stored for it. -/
structure DatedRecord where
  start : String
  record : CallRecord

/-- **Sound**: the record shows its stored start unless that is blank, and no blank use case. -/
structure DatedRecord.Sound (d : DatedRecord) : Prop where
  startedAt : Text.isBlank d.start = false → d.record.startedAt = some d.start
  useCase : ∀ id, d.record.useCase = some id → Text.isBlank id = false

/-- **The records in a window**, by their stored starts. -/
def RecordQuery.inWindow (q : RecordQuery) (dated : List DatedRecord) : List CallRecord :=
  (dated.filter fun d => q.covers d.start).map DatedRecord.record

theorem RecordQuery.length_inWindow_le (q : RecordQuery) (dated : List DatedRecord) :
    (q.inWindow dated).length ≤ dated.length := by
  rw [inWindow, List.length_map]
  exact List.length_filter_le _ _

/-- The dated record of an item with a start, given how its record is read. -/
def dated? (read : Json → Option CallRecord) (item : Json) : Option DatedRecord :=
  (startOf? item).bind fun start => (read item).map fun r => ⟨start, r⟩

/-- The items that a query asks for are the dated records in its window. -/
theorem filterMap_wants (read : Json → Option CallRecord) (q : RecordQuery) (items : List Json) :
    (items.filterMap fun item => if q.wants item then read item else none) =
      q.inWindow (items.filterMap (dated? read)) := by
  rw [RecordQuery.inWindow, List.filter_filterMap, List.map_filterMap]
  refine List.filterMap_congr fun item _ => ?_
  rw [RecordQuery.wants, dated?]
  cases startOf? item with
  | none => rfl
  | some start => cases read item <;> cases hc : q.covers start <;> simp [hc]

/-! ## Fields of records -/

namespace CallRecord

theorem startedAt_of_ofItem? {item : Json} {r : CallRecord} (h : ofItem? item = some r) :
    r.startedAt = Json.asText (item.field? "startedAt") := by
  cases item with
  | object members =>
    cases h
    rfl
  | _ => cases h

theorem startedAt_of_ofText? {item : Json} {r : CallRecord} (once : item.KeysOnce)
    (h : ofText? item.compact = some r) :
    r.startedAt = Json.asText (item.field? "startedAt") := by
  obtain ⟨-, read, hr, texts⟩ := ofItem?_of_ofText? once h
  exact (startedAt_of_ofItem? hr).trans (texts _)

end CallRecord

theorem startOf?_eq_some {item : Json} {start : String} :
    startOf? item = some start ↔ item.field? "startedAt" = some (.string start) := by
  rw [startOf?]
  cases item.field? "startedAt" with
  | none => simp
  | some v => cases v <;> simp [Json.text?]

/-- A record with the text fields of its item is sound. -/
theorem DatedRecord.sound_of_dated? {read : Json → Option CallRecord} {item : Json}
    {d : DatedRecord} (h : dated? read item = some d)
    (useCase : ∀ r, read item = some r → r.useCase = Json.asText (item.field? "useCaseId"))
    (startedAt : ∀ r, read item = some r → r.startedAt = Json.asText (item.field? "startedAt")) :
    d.Sound := by
  obtain ⟨start, hstart, h⟩ := Option.bind_eq_some_iff.mp h
  obtain ⟨r, hr, rfl⟩ := Option.map_eq_some_iff.mp h
  constructor
  · intro notBlank
    exact (startedAt r hr).trans (Json.asText_eq_some.mpr ⟨startOf?_eq_some.mp hstart, notBlank⟩)
  · intro id hid
    exact (Json.asText_eq_some.mp ((useCase r hr).symm.trans hid)).2

/-! ## Stores of dated records -/

/-- A portal answers about the last days as about their window. -/
theorem Portal.summaryAt_of_window {σ : Type} [CallStore σ] (p : Portal σ) (card : RateCard)
    (tenant : String) {days : Int} {now : Time.Instant} {w : Window}
    (hw : Window.endingAt now (clampDays days) = some w) :
    p.summaryAt card tenant days now = some (p.summarize card tenant w) := by
  rw [summaryAt, hw, Option.map_some]

section HoldsDated

variable {σ : Type} [CallStore σ] [HoldsDeployments σ]

open HoldsDeployments (deployments)

/-- **A store holds dated records** of a tenant, fewer than a counter can count: what it reads,
if it can, are those in the window. -/
structure HoldsDated (s : σ) (tenant : String) (dated : List DatedRecord) : Prop where
  sound : ∀ d ∈ dated, d.Sound
  few : dated.length < UInt64.size
  filed : (deployments s).Filed
  read : ∀ q : RecordQuery, q.tenant = tenant → q.startIso ≠ "" → ∀ records s',
    readRecords s q = (.ok records, s') →
      records.Perm (q.inWindow dated) ∧ deployments s' = deployments s

end HoldsDated

/-- The dated records of a tenant in memory. -/
def MemoryStore.dated (s : MemoryStore) (tenant : String) : List DatedRecord :=
  (itemsOf tenant s.items).filterMap (dated? CallRecord.ofItem?)

/-- **A memory store holds dated records**, also if one of its page reads fails. -/
theorem MemoryStore.holdsDated_memory {s : MemoryStore} (filed : s.deployments.Filed)
    (tenant : String) : HoldsDated s tenant (s.dated tenant) where
  sound d hd := by
    obtain ⟨item, -, hd⟩ := List.mem_filterMap.mp hd
    exact DatedRecord.sound_of_dated? hd (fun r hr => (CallRecord.useCase_of_ofItem? hr).2)
      fun r hr => CallRecord.startedAt_of_ofItem? hr
  few := by
    have items : (s.dated tenant).length ≤ s.items.length := by
      refine (List.length_filterMap_le _ _).trans ?_
      rw [itemsOf, List.length_map]
      exact List.length_filter_le _ _
    have limit : itemLimit < UInt64.size := by decide
    exact (items.trans_lt s.items_lt).trans limit
  filed := filed
  read := by
    rintro q rfl - records s' h
    obtain ⟨rfl, rfl⟩ := readRecords_ok h
    refine ⟨(records_found_perm q s.items).trans (.of_eq ?_), rfl⟩
    exact filterMap_wants CallRecord.ofItem? q _

/-- The dated records of a tenant in a seeded table. -/
def TableStore.seededDated (tenant : String) (seeds : List Seed) : List DatedRecord :=
  (heldItems tenant seeds).filterMap (dated? fun item => CallRecord.ofText? item.compact)

/-- **A seeded table holds dated records** if the items of the tenant have each key once, as JSON
values have. -/
theorem TableStore.holdsDated_seeded (pageSize : Nat) {seeds : List Seed} {tenant : String}
    (once : ∀ item ∈ heldItems tenant seeds, item.KeysOnce)
    (few : (heldItems tenant seeds).length < UInt64.size) :
    HoldsDated (seeded pageSize seeds) tenant (seededDated tenant seeds) where
  sound d hd := by
    obtain ⟨item, hitem, hd⟩ := List.mem_filterMap.mp hd
    exact DatedRecord.sound_of_dated? hd
      (fun r hr => (CallRecord.useCase_of_ofText? (once item hitem) hr).2)
      fun r hr => CallRecord.startedAt_of_ofText? (once item hitem) hr
  few := (List.length_filterMap_le _ _).trans_lt few
  filed := by
    show (seeded pageSize seeds).deployments.Filed
    rw [deployments_seeded]
    exact Seed.filed_deployed seeds
  read := by
    rintro q rfl hs records s' h
    obtain ⟨found, hfound, perm⟩ := readRecords_seeded hs pageSize seeds
    obtain ⟨hr, rfl⟩ := Prod.mk.inj (hfound.symm.trans h)
    obtain rfl := Except.ok.inj hr
    refine ⟨perm.trans (.of_eq ?_), rfl⟩
    rw [seededDated, ← filterMap_wants]
    refine List.filterMap_congr fun item _ => ?_
    rw [storedRecord?, RecordQuery.covers_startText hs]

/-! ## Records fit for a summary -/

/-- **A record in a window**: it shows a start in the window, and no blank use case. -/
structure CallRecord.InWindow (w : Window) (r : CallRecord) : Prop where
  startedAt : ∃ start, r.startedAt = some start ∧ w.startIso ≤ start ∧ start ≤ w.endIso
  useCase : ∀ id, r.useCase = some id → Text.isBlank id = false

/-- **Dated records in the window of some days** show their stored starts. -/
theorem DatedRecord.Sound.inWindow {d : DatedRecord} (h : d.Sound) {now : Time.Instant} {days : Nat}
    {w : Window} (hw : Window.endingAt now days = some w) {tenant : String}
    (covered : (w.query tenant).covers d.start = true) : d.record.InWindow w where
  startedAt := ⟨d.start, h.startedAt (Window.not_blank_of_covers hw covered),
    Window.covers_query_iff.mp covered⟩
  useCase := h.useCase

theorem inWindow_of_mem {dated : List DatedRecord} (sound : ∀ d ∈ dated, d.Sound)
    {now : Time.Instant} {days : Nat} {w : Window} (hw : Window.endingAt now days = some w)
    {tenant : String} {r : CallRecord} (h : r ∈ (w.query tenant).inWindow dated) :
    r.InWindow w := by
  obtain ⟨d, hd, rfl⟩ := List.mem_map.mp h
  obtain ⟨hd, covered⟩ := List.mem_filter.mp hd
  exact (sound d hd).inWindow hw covered

end CallMeter
