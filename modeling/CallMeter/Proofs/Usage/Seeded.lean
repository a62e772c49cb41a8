import CallMeter.Proofs.Json.Plain
import CallMeter.Proofs.Usage.Answers

/-!
# Answers of seeded stores

What a seeded store answers about a tenant is decided by the seeds of that tenant, and by which
store it is only where an item does not come back from its text as it was. Plain items do, so
with them the two stores cannot be told apart.

## Main results

* `storedRecord?_of_plain`: a plain item gives the same record from its text as on its own
* `summaryAt_memory_eq_table`: the two stores give the same answers over plain items
* `summaryAt_of_own_seeds`: other tenants do not show in the answers about a tenant
-/

namespace CallMeter

open Pricing (RateCard)

/-! ## Items and their texts -/

/-- **A plain item gives the same record** from its text as on its own. -/
theorem storedRecord?_of_plain {q : RecordQuery} (h : q.startIso ≠ "") {item : Json}
    (plain : item.Plain Json.Reader.maxDepth) : storedRecord? q item = liveRecord? q item := by
  have text : CallRecord.ofText? item.compact = CallRecord.ofItem? item := by
    rw [CallRecord.ofText?, Json.parse?_compact_of_plain plain, Option.bind_some]
  rw [storedRecord?, liveRecord?, RecordQuery.covers_startText h, text]

/-- **A seeded memory store answers from all items of the tenant.** -/
theorem MemoryStore.answersFrom_seeded_memory (pageSize : UInt64) {seeds : List Seed}
    (room : (Seed.entries seeds).length < itemLimit) (m : Metrics) (tenant : String) :
    Portal.AnswersFrom ⟨seeded pageSize seeds, m⟩ tenant liveRecord?
      (((Seed.entries seeds).filter fun e => e.tenant = tenant).map Entry.item) := by
  rw [← itemsOf_seeded pageSize room tenant]
  exact answersFrom_memory (failOnPage_seeded pageSize seeds) tenant

/-! ## One store in place of the other -/

/-- **The two stores give the same answers.** After the same seeds, with items of the tenant that
read back from their texts and a record id for each of them, a memory store with room for all
items and a table cannot be told apart, whatever their page sizes. -/
theorem summaryAt_memory_eq_table {seeds : List Seed} {tenant : String}
    (room : (Seed.entries seeds).length < itemLimit)
    (distinct : (((Seed.entries seeds).filter fun e => e.tenant = tenant).map Entry.id).Nodup)
    (plain : ∀ e ∈ Seed.entries seeds, e.tenant = tenant → e.item.Plain Json.Reader.maxDepth)
    (n₁ : UInt64) (n₂ : Nat) (m₁ m₂ : Metrics) (card : RateCard) (days : Int)
    (now : Time.Instant) :
    (Portal.summaryAt ⟨MemoryStore.seeded n₁ seeds, m₁⟩ card tenant days now).map Prod.fst =
      (Portal.summaryAt ⟨TableStore.seeded n₂ seeds, m₂⟩ card tenant days now).map
        Prod.fst := by
  have memory := MemoryStore.answersFrom_seeded_memory n₁ room m₁ tenant
  have table := TableStore.answersFrom_seeded n₂ seeds m₂ tenant
  rw [heldItems_of_distinct distinct] at table
  refine memory.answersWith.summaryAt_eq table.answersWith ?_ ?_ card days now
  · intro id
    show (MemoryStore.seeded n₁ seeds).deployments.find? tenant id =
      (TableStore.seeded n₂ seeds).deployments.find? tenant id
    rw [MemoryStore.deployments_seeded_memory, TableStore.deployments_seeded]
  · intro q _ hs
    refine .of_eq (List.filterMap_congr fun item hi => ?_)
    obtain ⟨e, he, rfl⟩ := List.mem_map.mp hi
    obtain ⟨he, own⟩ := List.mem_filter.mp he
    exact (storedRecord?_of_plain hs (plain e he (of_decide_eq_true own))).symm

/-- A call with an integer in it, one without a start, and a deployment. -/
theorem summaryAt_memory_eq_table_of_two_calls :
    let call : Json := .object [("useCaseId", .string "booking"),
      ("startedAt", .string "2024-05-02T09"), ("turnCount", .number (.natural 4))]
    let noStart : Json := .object [("useCaseId", .string "booking"), ("startedAt", .null)]
    let seeds : List Seed := [.item ⟨"acme", "a", call⟩,
      .deployment "acme" ⟨"booking", some "Booking", none, none⟩, .item ⟨"acme", "b", noStart⟩]
    let now : Time.Instant := ⟨1714978800, 0⟩
    (Portal.summaryAt ⟨MemoryStore.seeded 1 seeds, .none⟩ .default "acme" 7 now).map Prod.fst =
      (Portal.summaryAt ⟨TableStore.seeded 9 seeds, .none⟩ .default "acme" 7 now).map
        Prod.fst := by
  intro call noStart seeds now
  have distinct : (((Seed.entries seeds).filter fun e => e.tenant = "acme").map
      Entry.id).Nodup := by decide
  have plainCall : call.Plain 127 := by
    refine .object (by decide) ?_
    intro e he
    simp only [List.mem_cons, List.not_mem_nil, or_false] at he
    rcases he with rfl | rfl | rfl
    · exact .string _
    · exact .string _
    · exact .number trivial
  have plainNoStart : noStart.Plain 127 := by
    refine .object (by decide) ?_
    intro e he
    simp only [List.mem_cons, List.not_mem_nil, or_false] at he
    rcases he with rfl | rfl
    · exact .string _
    · exact .null
  have plain : ∀ e ∈ Seed.entries seeds, e.tenant = "acme" →
      e.item.Plain Json.Reader.maxDepth := by
    intro e he _
    rcases List.mem_pair.mp he with rfl | rfl
    · exact plainCall
    · exact plainNoStart
  exact summaryAt_memory_eq_table (by decide) distinct plain 1 9 .none .none .default 7 now

/-! ## One tenant apart from the others -/

/-- **Other tenants do not show in the answers about a tenant.** After some seeds a store of
either kind answers about a tenant as it does after the seeds of that tenant alone, in whatever
way these stand between the seeds of others, under whatever record ids and use cases, and
whatever tenant an item names. Memory needs room for all items, since tenants share it. -/
theorem summaryAt_of_own_seeds (seeds : List Seed) (m : Metrics) (card : RateCard)
    (tenant : String) (days : Int) (now : Time.Instant) :
    let own := seeds.filter fun op => op.tenant = tenant
    (∀ n : UInt64, (Seed.entries seeds).length < itemLimit →
      (Portal.summaryAt ⟨MemoryStore.seeded n seeds, m⟩ card tenant days now).map Prod.fst =
        (Portal.summaryAt ⟨MemoryStore.seeded n own, m⟩ card tenant days now).map Prod.fst) ∧
    (∀ n : Nat,
      (Portal.summaryAt ⟨TableStore.seeded n seeds, m⟩ card tenant days now).map Prod.fst =
        (Portal.summaryAt ⟨TableStore.seeded n own, m⟩ card tenant days now).map Prod.fst) := by
  intro own
  have find (id : String) : (Seed.deployed seeds).find? tenant id =
      (Seed.deployed own).find? tenant id :=
    (Seed.find?_deployed_own tenant id seeds).symm
  constructor
  · intro n room
    have fewer : (Seed.entries own).length ≤ (Seed.entries seeds).length := by
      rw [Seed.entries_own]
      exact List.length_filter_le _ _
    have all := MemoryStore.answersFrom_seeded_memory n room m tenant
    have alone := MemoryStore.answersFrom_seeded_memory n (fewer.trans_lt room) m tenant
    refine all.summaryAt_eq alone ?_ (.of_eq ?_) card days now
    · intro id
      show (MemoryStore.seeded n seeds).deployments.find? tenant id =
        (MemoryStore.seeded n own).deployments.find? tenant id
      rw [MemoryStore.deployments_seeded_memory, MemoryStore.deployments_seeded_memory, find]
    · rw [Seed.entries_own, List.filter_filter]
      simp only [Bool.and_self]
  · intro n
    have all := TableStore.answersFrom_seeded n seeds m tenant
    have alone := TableStore.answersFrom_seeded n own m tenant
    refine all.summaryAt_eq alone ?_ (.of_eq (heldItems_own tenant seeds).symm) card days now
    intro id
    show (TableStore.seeded n seeds).deployments.find? tenant id =
      (TableStore.seeded n own).deployments.find? tenant id
    rw [TableStore.deployments_seeded, TableStore.deployments_seeded, find]

/-- Two tenants with one record id and one use case between them, and an item that names the
other tenant. -/
theorem summaryAt_of_own_seeds_of_two_tenants :
    let call (owner : String) : Json := .object [("tenantId", .string owner),
      ("useCaseId", .string "booking"), ("startedAt", .string "2024-05-02T09")]
    let seeds : List Seed := [
      .item ⟨"acme", "a", call "acme"⟩, .item ⟨"globex", "a", call "acme"⟩,
      .deployment "globex" ⟨"booking", some "Theirs", none, none⟩,
      .deployment "acme" ⟨"booking", some "Ours", none, none⟩]
    let own : List Seed := [.item ⟨"acme", "a", call "acme"⟩,
      .deployment "acme" ⟨"booking", some "Ours", none, none⟩]
    let now : Time.Instant := ⟨1714978800, 0⟩
    (Portal.summaryAt ⟨MemoryStore.seeded 1 seeds, .none⟩ .default "acme" 7 now).map Prod.fst =
        (Portal.summaryAt ⟨MemoryStore.seeded 1 own, .none⟩ .default "acme" 7 now).map
          Prod.fst ∧
      (Portal.summaryAt ⟨TableStore.seeded 1 seeds, .none⟩ .default "acme" 7 now).map Prod.fst =
        (Portal.summaryAt ⟨TableStore.seeded 1 own, .none⟩ .default "acme" 7 now).map
          Prod.fst := by
  intro call seeds own now
  obtain ⟨memory, table⟩ := summaryAt_of_own_seeds seeds .none .default "acme" 7 now
  have hown : (seeds.filter fun op => op.tenant = "acme") = own := by
    simp [seeds, own, Seed.tenant]
  rw [hown] at memory table
  exact ⟨memory 1 (by decide), table 1⟩

end CallMeter
