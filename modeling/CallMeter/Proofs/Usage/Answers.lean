import CallMeter.Proofs.Store.Seeding
import CallMeter.Proofs.Usage.Summaries

/-!
# What a portal answers

A summary goes from a store through paging, tallies and profiles. For both stores all of this
comes down to the items that the tenant holds: the answer is the summary of the records that the
query finds among them. How the data is laid out, the order of the items, the sizes of the pages
and the record ids, cannot be seen in it.

## Main definitions

* `Portal.AnswersWith`: a portal answers with the summaries of records
* `Portal.AnswersFrom`: a portal answers from the items of a tenant
* `liveRecord?`: the record that a query finds for an item kept as it is

## Main results

* `AnswersWith.summaryAt_eq`: portals that answer with the same records answer alike
* `answersWith_table`: a table in order answers with the records of its rows
* `answersFrom_memory`, `answersFrom_seeded`: both stores answer from the items they hold
* `AnswersFrom.summaryAt_eq`: portals that answer from the same items answer alike
* `summaryAt_of_same_items`: a summary does not depend on how the data is laid out
-/

namespace CallMeter

open Pricing (RateCard)

/-! ## The texts of a window -/

theorem Time.Instant.toIso_ne_empty (t : Time.Instant) : t.toIso ≠ "" := by
  intro e
  have chars := congrArg String.toList e
  simp [toIso] at chars

theorem Window.startIso_ne_empty {now : Time.Instant} {days : Nat} {w : Window}
    (h : endingAt now days = some w) : w.startIso ≠ "" := by
  rw [endingAt] at h
  split at h
  · exact absurd h (by simp)
  · obtain rfl := Option.some.inj h
    exact Time.Instant.toIso_ne_empty _

/-! ## Answering with records -/

section AnswersWith

variable {σ τ : Type} [CallStore σ] [HoldsDeployments σ] [CallStore τ] [HoldsDeployments τ]
  {p : Portal σ} {p' : Portal τ} {tenant : String} {found found' : RecordQuery → List CallRecord}

open HoldsDeployments (deployments)

/-- **A portal answers with records**: its answers about a tenant are the summaries of the
records that a query finds, with the deployments of the tenant. -/
def Portal.AnswersWith (p : Portal σ) (tenant : String)
    (found : RecordQuery → List CallRecord) : Prop :=
  ∀ (card : RateCard) (days : Int) (now : Time.Instant),
    (p.summaryAt card tenant days now).map Prod.fst =
      (Window.endingAt now (clampDays days)).map fun w =>
        .ok (summaryFrom (fun id => (deployments p.store).find? tenant id) card tenant w
          (found (w.query tenant)))

/-- It is enough to read the records of every query, up to their order. -/
theorem Portal.answersWith_of_read
    (h : ∀ q : RecordQuery, q.tenant = tenant → q.startIso ≠ "" →
      ∃ records s, readRecords p.store q = (.ok records, s) ∧
        deployments s = deployments p.store ∧ records.Perm (found q)) :
    p.AnswersWith tenant found := by
  intro card days now
  unfold summaryAt
  rw [Option.map_map]
  apply Option.map_congr
  intro w hw
  obtain ⟨records, s, read, same, perm⟩ :=
    h (w.query tenant) rfl (Window.startIso_ne_empty (Option.mem_def.mp hw))
  have answer := summarize_eq read card
  rw [same, summaryFrom_perm _ card tenant w perm] at answer
  exact answer

/-- The records of an answer may stand in any order. -/
theorem Portal.AnswersWith.congr (h : p.AnswersWith tenant found)
    (perm : ∀ q : RecordQuery, q.tenant = tenant → q.startIso ≠ "" → (found q).Perm (found' q)) :
    p.AnswersWith tenant found' := by
  intro card days now
  rw [h card days now]
  refine Option.map_congr fun w hw => ?_
  have start := Window.startIso_ne_empty (Option.mem_def.mp hw)
  rw [summaryFrom_perm _ card tenant w (perm (w.query tenant) rfl start)]

/-- **Portals that answer with the same records**, in whatever order, answer alike. -/
theorem Portal.AnswersWith.summaryAt_eq (h : p.AnswersWith tenant found)
    (h' : p'.AnswersWith tenant found')
    (find : ∀ id, (deployments p.store).find? tenant id = (deployments p'.store).find? tenant id)
    (perm : ∀ q : RecordQuery, q.tenant = tenant → q.startIso ≠ "" → (found q).Perm (found' q))
    (card : RateCard) (days : Int) (now : Time.Instant) :
    (p.summaryAt card tenant days now).map Prod.fst =
      (p'.summaryAt card tenant days now).map Prod.fst := by
  rw [h.congr perm card days now, h' card days now, funext find]

end AnswersWith

/-! ## Answering from items -/

section AnswersFrom

variable {σ : Type} [CallStore σ] [HoldsDeployments σ] {p p' : Portal σ} {tenant : String}
  {kept : RecordQuery → Json → Option CallRecord} {items items' : List Json}

open HoldsDeployments (deployments)

/-- **A portal answers from items**: its answers about a tenant are the summaries of the records
that the query finds among the items, with the deployments of the tenant. -/
def Portal.AnswersFrom (p : Portal σ) (tenant : String)
    (kept : RecordQuery → Json → Option CallRecord) (items : List Json) : Prop :=
  ∀ (card : RateCard) (days : Int) (now : Time.Instant),
    (p.summaryAt card tenant days now).map Prod.fst =
      (Window.endingAt now (clampDays days)).map fun w =>
        .ok (summaryFrom (fun id => (deployments p.store).find? tenant id) card tenant w
          (items.filterMap (kept (w.query tenant))))

theorem Portal.AnswersFrom.answersWith (h : p.AnswersFrom tenant kept items) :
    p.AnswersWith tenant fun q => items.filterMap (kept q) :=
  h

/-- It is enough to read the records of every query, up to their order. -/
theorem Portal.answersFrom_of_read
    (h : ∀ q : RecordQuery, q.tenant = tenant → q.startIso ≠ "" →
      ∃ records s, readRecords p.store q = (.ok records, s) ∧
        deployments s = deployments p.store ∧ records.Perm (items.filterMap (kept q))) :
    p.AnswersFrom tenant kept items := by
  have answers : p.AnswersWith tenant fun q => items.filterMap (kept q) := answersWith_of_read h
  exact answers

/-- **Portals that answer from the same items**, in whatever order, answer alike. -/
theorem Portal.AnswersFrom.summaryAt_eq (h : p.AnswersFrom tenant kept items)
    (h' : p'.AnswersFrom tenant kept items')
    (find : ∀ id, (deployments p.store).find? tenant id = (deployments p'.store).find? tenant id)
    (perm : items.Perm items') (card : RateCard) (days : Int) (now : Time.Instant) :
    (p.summaryAt card tenant days now).map Prod.fst =
      (p'.summaryAt card tenant days now).map Prod.fst :=
  h.answersWith.summaryAt_eq h'.answersWith find (fun _ _ _ => perm.filterMap _) card days now

end AnswersFrom

/-! ## The two stores -/

/-- The record that a query finds for an item of its tenant that is kept as it is. -/
def liveRecord? (q : RecordQuery) (item : Json) : Option CallRecord :=
  if q.wants item then CallRecord.ofItem? item else none

/-- What a scan of a memory store finds are the items of the tenant that the query asks for. -/
theorem MemoryStore.records_found_perm (q : RecordQuery) (items : List (String × Json)) :
    ((found q items).filterMap CallRecord.ofItem?).Perm
      ((itemsOf q.tenant items).filterMap (liveRecord? q)) := by
  refine ((List.mergeSort_perm _ _).filterMap _).trans (.of_eq ?_)
  rw [List.filterMap_filter]
  rfl

/-- **A memory store answers from the items of the tenant.** -/
theorem MemoryStore.answersFrom_memory {p : Portal MemoryStore} (hf : p.store.failOnPage = none)
    (tenant : String) : p.AnswersFrom tenant liveRecord? (itemsOf tenant p.store.items) := by
  apply Portal.answersFrom_of_read
  intro q hq _
  exact ⟨_, _, readRecords_found hf q, rfl, hq ▸ records_found_perm q _⟩

/-- The record that a query finds for a row. -/
def Row.record? (q : RecordQuery) (r : Row) : Option CallRecord :=
  if r.tenant = q.tenant ∧ q.covers r.startedAt = true then CallRecord.ofText? r.item else none

/-- All records of a query are those of the rows that it finds in a table. -/
theorem TableStore.Tidy.readRecords_rows {s : TableStore} (tidy : s.Tidy) {q : RecordQuery}
    (hs : q.startIso ≠ "") :
    readRecords s q = (.ok (s.rows.filterMap (Row.record? q)), s) := by
  rw [tidy.readRecords_select, select_origin hs, List.filter_filter, List.filterMap_filter]
  have same : ∀ r ∈ s.rows, (if (q.covers r.startedAt && decide (r.tenant = q.tenant)) = true
      then CallRecord.ofText? r.item else none) = Row.record? q r := by
    intro r _
    rw [Row.record?, Bool.and_comm]
    exact if_congr (by rw [Bool.and_eq_true, decide_eq_true_iff]) rfl rfl
  rw [List.filterMap_congr same]

/-- **A table in order answers with the records of its rows.** -/
theorem TableStore.answersWith_table {p : Portal TableStore} (tidy : p.store.Tidy)
    (tenant : String) : p.AnswersWith tenant fun q => p.store.rows.filterMap (Row.record? q) := by
  apply Portal.answersWith_of_read
  intro q _ hs
  exact ⟨_, _, tidy.readRecords_rows hs, rfl, .refl _⟩

/-- **A seeded table answers from the items that the tenant holds.** -/
theorem TableStore.answersFrom_seeded (pageSize : Nat) (seeds : List Seed) (m : Metrics)
    (tenant : String) :
    Portal.AnswersFrom ⟨seeded pageSize seeds, m⟩ tenant storedRecord?
      (heldItems tenant seeds) := by
  apply Portal.answersFrom_of_read
  intro q hq hs
  obtain ⟨records, read, perm⟩ := readRecords_seeded hs pageSize seeds
  exact ⟨records, _, read, rfl, hq ▸ perm⟩

/-- **A summary does not depend on how the data is laid out.** Two memory stores with the same
items of a tenant, and two tables seeded with the same items of a tenant, give the same answer
about it, whatever the order of the items, the page sizes and the record ids. -/
theorem summaryAt_of_same_items (card : RateCard) (tenant : String) (days : Int)
    (now : Time.Instant) :
    (∀ p₁ p₂ : Portal MemoryStore,
      p₁.store.failOnPage = none → p₂.store.failOnPage = none →
      (∀ id, p₁.store.deployments.find? tenant id = p₂.store.deployments.find? tenant id) →
      (itemsOf tenant p₁.store.items).Perm (itemsOf tenant p₂.store.items) →
      (p₁.summaryAt card tenant days now).map Prod.fst =
        (p₂.summaryAt card tenant days now).map Prod.fst) ∧
    (∀ (n₁ n₂ : Nat) (seeds₁ seeds₂ : List Seed) (m₁ m₂ : Metrics),
      let p₁ : Portal TableStore := ⟨.seeded n₁ seeds₁, m₁⟩
      let p₂ : Portal TableStore := ⟨.seeded n₂ seeds₂, m₂⟩
      (∀ id, p₁.store.deployments.find? tenant id = p₂.store.deployments.find? tenant id) →
      (heldItems tenant seeds₁).Perm (heldItems tenant seeds₂) →
      (p₁.summaryAt card tenant days now).map Prod.fst =
        (p₂.summaryAt card tenant days now).map Prod.fst) := by
  constructor
  · intro p₁ p₂ hf₁ hf₂ find perm
    have h₁ := MemoryStore.answersFrom_memory hf₁ tenant
    have h₂ := MemoryStore.answersFrom_memory hf₂ tenant
    exact h₁.summaryAt_eq h₂ find perm card days now
  · intro n₁ n₂ seeds₁ seeds₂ m₁ m₂ p₁ p₂ find perm
    have h₁ := TableStore.answersFrom_seeded n₁ seeds₁ m₁ tenant
    have h₂ := TableStore.answersFrom_seeded n₂ seeds₂ m₂ tenant
    exact h₁.summaryAt_eq h₂ find perm card days now

/-- Two calls in either order, on pages of one and of many, under other record ids. -/
theorem summaryAt_of_two_calls :
    let call (start : String) : Json :=
      .object [("useCaseId", .string "booking"), ("startedAt", .string start)]
    let early := call "2024-05-02T09"
    let late := call "2024-05-03T10"
    let s₁ := ((MemoryStore.empty 1 none).add "acme" early).add "acme" late
    let s₂ := ((MemoryStore.empty 100 none).add "acme" late).add "acme" early
    let seeds₁ : List Seed := [.item ⟨"acme", "a", early⟩, .item ⟨"acme", "b", late⟩]
    let seeds₂ : List Seed := [.item ⟨"acme", "x", late⟩, .item ⟨"acme", "y", early⟩]
    let now : Time.Instant := ⟨1714978800, 0⟩
    (Portal.summaryAt ⟨s₁, .none⟩ .default "acme" 7 now).map Prod.fst =
        (Portal.summaryAt ⟨s₂, .none⟩ .default "acme" 7 now).map Prod.fst ∧
      (Portal.summaryAt ⟨TableStore.seeded 1 seeds₁, .none⟩ .default "acme" 7 now).map Prod.fst =
        (Portal.summaryAt ⟨TableStore.seeded 9 seeds₂, .none⟩ .default "acme" 7 now).map
          Prod.fst := by
  intro call early late s₁ s₂ seeds₁ seeds₂ now
  obtain ⟨memory, table⟩ := summaryAt_of_same_items .default "acme" 7 now
  constructor
  · apply memory ⟨s₁, .none⟩ ⟨s₂, .none⟩ rfl rfl
    · intro id
      rfl
    · exact List.Perm.swap late early []
  · apply table 1 9 seeds₁ seeds₂ .none .none
    · intro id
      rfl
    · exact List.Perm.swap late early []

end CallMeter
