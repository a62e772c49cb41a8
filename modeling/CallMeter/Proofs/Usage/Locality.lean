import CallMeter.Proofs.Json.ReadBack
import CallMeter.Proofs.Usage.Answers

/-!
# Bad data stays local

An item that no row counts does not show in an answer at all, and a call shows in the row of its
own use case only, however malformed its fields are. Neither keeps a store from answering. So a
row depends on the calls of its own use case, its own deployment and the prices, and on nothing
else that a store holds.

## Main definitions

* `Json.NoCall`: an item that is no call in the window of a query
* `Portal.SameAnswer`, `Portal.SameRows`: a portal answers as another one does, in whole or in
  the rows of some use cases
* `Portal.ShowsLocally`: an item shows in the row of its use case only
* `Portal.Gains`: a portal answers with at most one record more than another

## Main results

* `useCase_of_ofText?`: the use case of a record is that of the item from which it was written
* `AnswersWith.sameAnswer`, `AnswersWith.sameRows`: the records that decide an answer, and those
  that decide a row
* `gains_add`, `gains_insert`: a store gains the record of an item that is added
* `bad_data_stays_local`: what an added item can change
-/

namespace CallMeter

open Pricing (RateCard)

/-! ## Items and the use cases of their records -/

/-- An object with each key once. Of several values under one key its text would give the last, it
itself the first. -/
def Json.KeysOnce : Json → Prop
  | .object members => (members.map Prod.fst).Nodup
  | _ => True

/-- **No call**: the item is no object, or its use case is not a text with something in it, or
its start is not a text in the window. -/
def Json.NoCall (q : RecordQuery) (item : Json) : Prop :=
  item.isObject = false ∨
    (∀ id, item.field? "useCaseId" = some (.string id) → Text.isBlank id = true) ∨
    q.wants item = false

/-- A call has a use case only if its item names one. -/
theorem Json.NoCall.asText_eq_none {q : RecordQuery} {item : Json} (h : item.NoCall q)
    (object : item.isObject = true) (wanted : q.wants item = true) :
    asText (item.field? "useCaseId") = none := by
  rcases h with h | h | h
  · rw [object] at h
    cases h
  · rw [Option.eq_none_iff_forall_not_mem]
    intro id hid
    obtain ⟨named, notBlank⟩ := asText_eq_some.mp hid
    rw [h id named] at notBlank
    cases notBlank
  · rw [wanted] at h
    cases h

namespace CallRecord

theorem useCase_of_ofItem? {item : Json} {r : CallRecord} (h : ofItem? item = some r) :
    item.isObject = true ∧ r.useCase = Json.asText (item.field? "useCaseId") := by
  cases item with
  | object members =>
    cases h
    exact ⟨rfl, rfl⟩
  | _ => cases h

/-- **A record of a text** is one of an object with the text fields of the item that was written. -/
theorem ofItem?_of_ofText? {item : Json} {r : CallRecord} (once : item.KeysOnce)
    (h : ofText? item.compact = some r) :
    item.isObject = true ∧ ∃ read : Json, ofItem? read = some r ∧
      ∀ key, Json.asText (read.field? key) = Json.asText (item.field? key) := by
  rw [ofText?, Json.parse?_compact] at h
  obtain ⟨read, hread, hr⟩ := Option.bind_eq_some_iff.mp h
  have object := (useCase_of_ofItem? hr).1
  rw [(Json.asText_reread hread).2] at object
  cases item with
  | object members => exact ⟨rfl, read, hr, Json.asText_field?_reread hread once⟩
  | _ => cases object

/-- **The use case of a record** is that of the item from which its text was written. -/
theorem useCase_of_ofText? {item : Json} {r : CallRecord} (once : item.KeysOnce)
    (h : ofText? item.compact = some r) :
    item.isObject = true ∧ r.useCase = Json.asText (item.field? "useCaseId") := by
  obtain ⟨object, read, hr, texts⟩ := ofItem?_of_ofText? once h
  exact ⟨object, (useCase_of_ofItem? hr).2.trans (texts _)⟩

end CallRecord

/-! ## Answers alike -/

section Portal

variable {σ : Type} [CallStore σ] [HoldsDeployments σ]

open HoldsDeployments (deployments)

/-- The answer of a portal about a tenant and the last days. -/
def Portal.answerAt (p : Portal σ) (card : RateCard) (tenant : String) (days : Int)
    (now : Time.Instant) : Option (Except ServiceFault Summary) :=
  (p.summaryAt card tenant days now).map Prod.fst

variable (p p' : Portal σ) (card : RateCard) (tenant : String) (days : Int) (now : Time.Instant)

/-- **The same answer**, and no fault. -/
def Portal.SameAnswer : Prop :=
  p'.answerAt card tenant days now = p.answerAt card tenant days now ∧
    ∀ r ∈ p'.answerAt card tenant days now, ∃ summary, r = .ok summary

/-- **The same rows** of some use cases, and no fault. -/
def Portal.SameRows (shown : String → Bool) : Prop :=
  let rows (r : Except ServiceFault Summary) :=
    r.map fun summary => summary.rows.filter fun row => shown row.useCase
  (p'.answerAt card tenant days now).map rows = (p.answerAt card tenant days now).map rows ∧
    ∀ r ∈ p'.answerAt card tenant days now, ∃ summary, r = .ok summary

/-- **An item shows locally**, from one portal to another: not at all if it is no call, and
otherwise in the row of its use case only. -/
def Portal.ShowsLocally (item : Json) : Prop :=
  ((∀ w, Window.endingAt now (clampDays days) = some w → item.NoCall (w.query tenant)) →
    p.SameAnswer p' card tenant days now) ∧
  ∀ u, item.field? "useCaseId" = some (.string u) →
    p.SameRows p' card tenant days now fun id => id ≠ u

/-- **Rows stand alone**, from one portal to another: the row of a use case depends on its calls
in the window and its deployment only. -/
def Portal.RowsStandAlone (records : σ → RecordQuery → List CallRecord) : Prop :=
  ∀ id : String, (deployments p'.store).find? tenant id = (deployments p.store).find? tenant id →
    (∀ w, Window.endingAt now (clampDays days) = some w →
      (Usage.callsOf id (records p'.store (w.query tenant))).Perm
        (Usage.callsOf id (records p.store (w.query tenant)))) →
    p.SameRows p' card tenant days now fun shown => shown = id

/-- **A gain**: one portal answers with the records of another and at most one more. -/
structure Portal.Gains (found : RecordQuery → List CallRecord)
    (extra : RecordQuery → Option CallRecord) : Prop where
  before : p.AnswersWith tenant found
  after : p'.AnswersWith tenant fun q => found q ++ (extra q).toList
  find : ∀ id, (deployments p'.store).find? tenant id = (deployments p.store).find? tenant id

variable {p p' card tenant days now} {found found' : RecordQuery → List CallRecord}

theorem Portal.AnswersWith.no_fault (h : p.AnswersWith tenant found) :
    ∀ r ∈ p.answerAt card tenant days now, ∃ summary, r = .ok summary := by
  intro r hr
  rw [answerAt, h card days now] at hr
  obtain ⟨w, -, rfl⟩ := Option.mem_map.mp hr
  exact ⟨_, rfl⟩

/-- **The records with a use case decide the answer.** -/
theorem Portal.AnswersWith.sameAnswer (h : p.AnswersWith tenant found)
    (h' : p'.AnswersWith tenant found')
    (find : ∀ id, (deployments p'.store).find? tenant id = (deployments p.store).find? tenant id)
    (counted : ∀ w, Window.endingAt now (clampDays days) = some w →
      (Usage.counted (found' (w.query tenant))).Perm (Usage.counted (found (w.query tenant)))) :
    p.SameAnswer p' card tenant days now := by
  refine ⟨?_, h'.no_fault⟩
  rw [answerAt, answerAt, h card days now, h' card days now, funext find]
  refine Option.map_congr fun w hw => ?_
  rw [← summaryFrom_counted, ← summaryFrom_counted _ _ _ _ (found _),
    summaryFrom_perm _ card tenant w (counted w hw)]

/-- **The calls of a use case and its deployment decide its row.** -/
theorem Portal.AnswersWith.sameRows (h : p.AnswersWith tenant found)
    (h' : p'.AnswersWith tenant found') (filed : (deployments p.store).Filed)
    (filed' : (deployments p'.store).Filed) (shown : String → Bool)
    (find : ∀ id, shown id = true →
      (deployments p'.store).find? tenant id = (deployments p.store).find? tenant id)
    (calls : ∀ w, Window.endingAt now (clampDays days) = some w → ∀ id, shown id = true →
      (Usage.callsOf id (found' (w.query tenant))).Perm
        (Usage.callsOf id (found (w.query tenant)))) :
    p.SameRows p' card tenant days now shown := by
  refine ⟨?_, h'.no_fault⟩
  rw [answerAt, answerAt, h card days now, h' card days now, Option.map_map, Option.map_map]
  refine Option.map_congr fun w hw => congrArg Except.ok ?_
  exact filter_rows_summaryFrom (filed tenant) (filed' tenant) shown find (calls w hw)

theorem Portal.AnswersWith.rowsStandAlone {records : σ → RecordQuery → List CallRecord}
    (h : p.AnswersWith tenant (records p.store)) (h' : p'.AnswersWith tenant (records p'.store))
    (filed : (deployments p.store).Filed) (filed' : (deployments p'.store).Filed) :
    p.RowsStandAlone p' card tenant days now records := by
  intro id find calls
  refine h.sameRows h' filed filed' _ ?_ ?_
  · intro shown hid
    rw [of_decide_eq_true hid, find]
  · intro w hw shown hid
    rw [of_decide_eq_true hid]
    exact calls w hw

variable {extra : RecordQuery → Option CallRecord}

/-- **A record without a use case** that is gained does not show. -/
theorem Portal.Gains.sameAnswer (h : p.Gains p' tenant found extra)
    (uncounted : ∀ w, Window.endingAt now (clampDays days) = some w →
      ∀ r, extra (w.query tenant) = some r → r.useCase = none) :
    p.SameAnswer p' card tenant days now := by
  refine h.before.sameAnswer h.after h.find fun w hw => .of_eq ?_
  rw [Usage.counted, List.filter_append, ← Usage.counted]
  cases hr : extra (w.query tenant) with
  | none => simp
  | some r => simp [uncounted w hw r hr]

/-- **A record of another use case** that is gained does not show in a row. -/
theorem Portal.Gains.sameRows (h : p.Gains p' tenant found extra)
    (filed : (deployments p.store).Filed) (filed' : (deployments p'.store).Filed)
    (shown : String → Bool)
    (other : ∀ w, Window.endingAt now (clampDays days) = some w →
      ∀ r, extra (w.query tenant) = some r → ∀ id, shown id = true → r.useCase ≠ some id) :
    p.SameRows p' card tenant days now shown := by
  refine h.before.sameRows h.after filed filed' _ (fun id _ => h.find id) fun w hw id hid => ?_
  refine .of_eq ?_
  rw [Usage.callsOf, List.filter_append, ← Usage.callsOf]
  cases hr : extra (w.query tenant) with
  | none => simp
  | some r => simp [other w hw r hr id hid]

/-- **A record that is gained shows locally** if it is read from a wanted item. -/
theorem Portal.Gains.showsLocally {item : Json} (h : p.Gains p' tenant found extra)
    (filed : (deployments p.store).Filed) (filed' : (deployments p'.store).Filed)
    (read : ∀ q r, q.startIso ≠ "" → extra q = some r → q.wants item = true ∧
      item.isObject = true ∧ r.useCase = Json.asText (item.field? "useCaseId")) :
    p.ShowsLocally p' card tenant days now item := by
  constructor
  · intro noCall
    refine h.sameAnswer fun w hw r hr => ?_
    obtain ⟨wanted, object, useCase⟩ := read _ r (Window.startIso_ne_empty hw) hr
    rw [useCase, (noCall w hw).asText_eq_none object wanted]
  · intro u hu
    refine h.sameRows filed filed' _ fun w hw r hr id hid e => ?_
    obtain ⟨-, -, useCase⟩ := read _ r (Window.startIso_ne_empty hw) hr
    rw [e, eq_comm, Json.asText_eq_some, hu] at useCase
    obtain rfl := Json.string.inj (Option.some.inj useCase.1)
    exact of_decide_eq_true hid rfl

end Portal

/-! ## The two stores -/

namespace MemoryStore

/-- The records that a query finds among the items of a memory store. -/
def records (s : MemoryStore) (q : RecordQuery) : List CallRecord :=
  (itemsOf q.tenant s.items).filterMap (liveRecord? q)

theorem answersWith_records {p : Portal MemoryStore} (hf : p.store.failOnPage = none)
    (tenant : String) : p.AnswersWith tenant p.store.records :=
  answersFrom_memory hf tenant

/-- The record that a query finds for an item that is added, if there is room for it. -/
def addedRecord? (s : MemoryStore) (owner : String) (item : Json) (q : RecordQuery) :
    Option CallRecord :=
  if owner = q.tenant ∧ s.items.length + 1 < itemLimit then liveRecord? q item else none

theorem records_add (s : MemoryStore) (owner : String) (item : Json) (q : RecordQuery) :
    (s.add owner item).records q = s.records q ++ (s.addedRecord? owner item q).toList := by
  by_cases room : s.items.length + 1 < itemLimit
  · have items : (s.add owner item).items = s.items ++ [(owner, item)] := by rw [add, dif_pos room]
    rw [records, items, itemsOf, List.filter_append, List.map_append, List.filterMap_append,
      ← itemsOf, ← records, addedRecord?]
    by_cases own : owner = q.tenant
    · rw [List.filter_cons_of_pos (by simpa using own), if_pos ⟨own, room⟩]
      cases hr : liveRecord? q item <;> simp [hr]
    · rw [List.filter_cons_of_neg (by simpa using own), if_neg fun h => own h.1]
      rfl
  · rw [add, dif_neg room, addedRecord?, if_neg fun h => room h.2, Option.toList_none,
      List.append_nil]

/-- **A memory store gains the record of an item** that is added. -/
theorem gains_add {p : Portal MemoryStore} (hf : p.store.failOnPage = none)
    (tenant owner : String) (item : Json) :
    p.Gains { p with store := p.store.add owner item } tenant p.store.records
      (p.store.addedRecord? owner item) where
  before := answersWith_records hf tenant
  after := by
    have hf' : (p.store.add owner item).failOnPage = none := by rw [failOnPage_add, hf]
    have after : Portal.AnswersWith { p with store := p.store.add owner item } tenant
        (p.store.add owner item).records := answersWith_records hf' tenant
    exact after.congr fun q _ _ => .of_eq (records_add p.store owner item q)
  find id := congrArg (Deployments.find? tenant id) (deployments_add p.store owner item)

end MemoryStore

namespace TableStore

/-- The records that a query finds among the rows of a table. -/
def records (s : TableStore) (q : RecordQuery) : List CallRecord :=
  s.rows.filterMap (Row.record? q)

theorem answersWith_records {p : Portal TableStore} (tidy : p.store.Tidy) (tenant : String) :
    p.AnswersWith tenant p.store.records :=
  answersWith_table tidy tenant

theorem records_insert {s : TableStore} {row : Row} (fresh : ∀ r ∈ s.rows, r.slot ≠ row.slot)
    (q : RecordQuery) :
    ((s.insert row).records q).Perm (s.records q ++ (Row.record? q row).toList) := by
  have all : (s.rows.filter fun r => r.slot ≠ row.slot) = s.rows :=
    List.filter_eq_self.mpr fun r hr => decide_eq_true (fresh r hr)
  have rows : (s.insert row).rows.Perm (s.rows ++ [row]) :=
    (all ▸ rows_insert_perm s row).trans (List.perm_append_singleton row _).symm
  refine (rows.filterMap _).trans (.of_eq ?_)
  rw [List.filterMap_append, ← records]
  cases hr : Row.record? q row <;> simp [hr]

/-- **A table gains the record of a row** that is written to a free slot. -/
theorem gains_insert {p : Portal TableStore} (tidy : p.store.Tidy) (tenant : String) (row : Row)
    (fresh : ∀ r ∈ p.store.rows, r.slot ≠ row.slot) :
    p.Gains { p with store := p.store.insert row } tenant p.store.records (Row.record? · row) where
  before := answersWith_records tidy tenant
  after := by
    have after : Portal.AnswersWith { p with store := p.store.insert row } tenant
        (p.store.insert row).records := answersWith_records (tidy.insert row) tenant
    exact after.congr fun q _ _ => records_insert fresh q
  find _ := rfl

end TableStore

/-- **Bad data stays local.** In a store of either kind, an item that is no call in the window
leaves the answer about a tenant as it was, a call changes the row of its own use case only, and
neither makes the answer a fault; nor does a row of a table whose text is no object. So the row
of a use case depends on its calls in the window, its deployment and the prices. -/
theorem bad_data_stays_local (card : RateCard) (tenant : String) (days : Int)
    (now : Time.Instant) :
    (∀ p : Portal MemoryStore, p.store.failOnPage = none → p.store.deployments.Filed →
      ∀ (owner : String) (item : Json),
        p.ShowsLocally { p with store := p.store.add owner item } card tenant days now item) ∧
    (∀ p : Portal TableStore, p.store.Tidy → p.store.deployments.Filed →
      ∀ owner id : String, (∀ r ∈ p.store.rows, r.slot ≠ (owner, id)) →
        (∀ item : Json, item.KeysOnce →
          p.ShowsLocally { p with store := p.store.add owner id item } card tenant days now
            item) ∧
        ∀ start text : String, (∀ v, Json.parse? text = some v → v.isObject = false) →
          p.SameAnswer { p with store := p.store.insert ⟨owner, id, start, text⟩ } card tenant
            days now) ∧
    (∀ p p' : Portal MemoryStore, p.store.failOnPage = none → p'.store.failOnPage = none →
      p.store.deployments.Filed → p'.store.deployments.Filed →
        p.RowsStandAlone p' card tenant days now MemoryStore.records) ∧
    (∀ p p' : Portal TableStore, p.store.Tidy → p'.store.Tidy →
      p.store.deployments.Filed → p'.store.deployments.Filed →
        p.RowsStandAlone p' card tenant days now TableStore.records) := by
  refine ⟨?memory, ?table, ?memoryRows, ?tableRows⟩
  case memory =>
    intro p hf filed owner item
    have filed' : (p.store.add owner item).deployments.Filed := by
      rw [MemoryStore.deployments_add]
      exact filed
    refine (MemoryStore.gains_add hf tenant owner item).showsLocally filed filed' ?_
    intro q r _ hr
    obtain ⟨-, hr⟩ := Option.ite_none_right_eq_some.mp hr
    obtain ⟨wanted, hr⟩ := Option.ite_none_right_eq_some.mp hr
    exact ⟨wanted, CallRecord.useCase_of_ofItem? hr⟩
  case table =>
    intro p tidy filed owner id fresh
    constructor
    · intro item once
      have gains := TableStore.gains_insert tidy tenant (Entry.row ⟨owner, id, item⟩) fresh
      refine gains.showsLocally filed filed ?_
      intro q r hs hr
      obtain ⟨⟨-, covered⟩, hr⟩ := Option.ite_none_right_eq_some.mp hr
      exact ⟨(RecordQuery.covers_startText hs item).symm.trans covered,
        CallRecord.useCase_of_ofText? once hr⟩
    · intro start text unreadable
      have gains := TableStore.gains_insert tidy tenant ⟨owner, id, start, text⟩ fresh
      refine gains.sameAnswer fun w hw r hr => ?_
      obtain ⟨-, hr⟩ := Option.ite_none_right_eq_some.mp hr
      obtain ⟨v, hv, hr⟩ := Option.bind_eq_some_iff.mp hr
      have object := (CallRecord.useCase_of_ofItem? hr).1
      rw [unreadable v hv] at object
      cases object
  case memoryRows =>
    intro p p' hf hf' filed filed'
    have before := MemoryStore.answersWith_records hf tenant
    exact before.rowsStandAlone (MemoryStore.answersWith_records hf' tenant) filed filed'
  case tableRows =>
    intro p p' tidy tidy' filed filed'
    have before := TableStore.answersWith_records tidy tenant
    exact before.rowsStandAlone (TableStore.answersWith_records tidy' tenant) filed filed'

/-- One call in each store, and beside it an array, a call of another use case with an unreadable
number of turns, a text that ends too early, and a call of another tenant. -/
theorem bad_data_stays_local_beside_one_call :
    let call (id : String) : Json := .object [("useCaseId", .string id),
      ("startedAt", .string "2024-05-02T09"), ("turnCount", .string "many")]
    let seeds : List Seed := [.item ⟨"acme", "a", call "booking"⟩,
      .deployment "acme" ⟨"booking", some "Booking", none, none⟩]
    let now : Time.Instant := ⟨1714978800, 0⟩
    let p : Portal MemoryStore := ⟨.seeded 1 seeds, .none⟩
    let t : Portal TableStore := ⟨.seeded 9 seeds, .none⟩
    (p.SameAnswer { p with store := p.store.add "acme" (.array []) } .default "acme" 7 now ∧
      p.SameRows { p with store := p.store.add "acme" (call "support") } .default "acme" 7 now
        (fun id => id ≠ "support") ∧
      p.SameRows { p with store := p.store.add "globex" (call "booking") } .default "acme" 7 now
        (fun id => id = "booking")) ∧
    (t.SameAnswer { t with store := t.store.add "acme" "b" (.array []) } .default "acme" 7 now ∧
      t.SameRows { t with store := t.store.add "acme" "b" (call "support") } .default "acme" 7
        now (fun id => id ≠ "support") ∧
      t.SameAnswer { t with store := t.store.insert ⟨"acme", "b", "2024-05-03T10", "["⟩ }
        .default "acme" 7 now ∧
      t.SameRows { t with store := t.store.add "globex" "a" (call "booking") } .default "acme" 7
        now (fun id => id = "booking")) := by
  intro call seeds now p t
  obtain ⟨memory, table, memoryRows, tableRows⟩ := bad_data_stays_local .default "acme" 7 now
  have filed : p.store.deployments.Filed := by
    rw [MemoryStore.deployments_seeded_memory]
    exact Seed.filed_deployed seeds
  have filed' : t.store.deployments.Filed := by
    rw [TableStore.deployments_seeded]
    exact Seed.filed_deployed seeds
  have tidy : t.store.Tidy := TableStore.tidy_seeded 9 seeds
  have fresh : ∀ r ∈ t.store.rows, r.slot ≠ ("acme", "b") := by decide
  obtain ⟨added, inserted⟩ := table t tidy filed' "acme" "b" fresh
  refine ⟨⟨?_, ?_, ?_⟩, ?_, ?_, ?_, ?_⟩
  · exact (memory p rfl filed "acme" (.array [])).1 fun _ _ => .inl rfl
  · exact (memory p rfl filed "acme" (call "support")).2 "support" rfl
  · exact memoryRows p { p with store := p.store.add "globex" (call "booking") } rfl rfl filed filed
      "booking" rfl fun w _ => .refl _
  · exact (added (.array []) trivial).1 fun _ _ => .inl rfl
  · exact (added (call "support") (by simp [Json.KeysOnce, call])).2 "support" rfl
  · exact inserted "2024-05-03T10" "[" fun v hv => by
      have none : Json.parse? "[" = none := by decide
      rw [none] at hv
      cases hv
  · let row := (Entry.mk "globex" "a" (call "booking")).row
    have others : ∀ r ∈ t.store.rows, r.slot ≠ row.slot := by decide
    have unseen (w : Window) : Row.record? (w.query "acme") row = none :=
      if_neg fun h => absurd (show "globex" = "acme" from h.1) (by decide)
    refine tableRows t { t with store := t.store.insert row } tidy (tidy.insert row) filed' filed'
      "booking" rfl fun w _ => .filter _ ?_
    have records := TableStore.records_insert others (w.query "acme")
    rwa [unseen w, Option.toList_none, List.append_nil] at records

end CallMeter
