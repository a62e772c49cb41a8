import CallMeter.Proofs.Store.Logged
import CallMeter.Proofs.Store.Offset

/-!
# A page read that fails

Page reads are numbered over the life of a memory store, and one number can be marked to fail. A
scan numbers its page reads from those before it on. So it either meets the marked number, and
then ends there, or it does not, and then it is the scan of the store without the mark.

## Main definitions

* `MemoryStore.failingAt`: the same store with another page read that fails
* `MemoryStore.MeetsFailure`: the failure falls among the next page reads
* `MemoryStore.pagesFor`: the page reads that the scan of a query needs

## Main results

* `queryPage_failingAt`: a page read fails as marked, or is that of the unmarked store
* `Scans.of_failure`, `Scans.of_no_failure`: the same for scans
* `readRecords_of_failure`, `readRecords_of_no_failure`: the records of a query
-/

namespace CallMeter

namespace MemoryStore

/-- The same store with another page read that fails, or none. -/
def failingAt (page : Option Nat) (s : MemoryStore) : MemoryStore :=
  { s with failOnPage := page }

/-- **The failure falls among the next page reads** of a store. -/
def MeetsFailure (s : MemoryStore) (pages : Nat) : Prop :=
  ∃ n, s.failOnPage = some n ∧ s.pagesServed < n ∧ n ≤ s.pagesServed + pages

/-- **The page reads that the scan of a query needs**. -/
def pagesFor (q : RecordQuery) (s : MemoryStore) : Nat :=
  pageCount (found q s.items).length s.pageSize

variable {s : MemoryStore} {q : RecordQuery} {c : Option String} {n pages : Nat}

theorem meetsFailure_iff (marked : s.failOnPage = some n) :
    s.MeetsFailure pages ↔ s.pagesServed < n ∧ n ≤ s.pagesServed + pages := by
  constructor
  · rintro ⟨m, hm, met⟩
    obtain rfl := Option.some.inj (marked.symm.trans hm)
    exact met
  · rintro ⟨after, within⟩
    exact ⟨n, marked, after, within⟩

theorem not_meetsFailure_failingAt_none (s : MemoryStore) (pages : Nat) :
    ¬ (s.failingAt none).MeetsFailure pages := by
  rintro ⟨n, hn, -⟩
  cases hn

/-! ## One page read -/

/-- **A page read fails as marked**, or is that of the store with no mark. -/
theorem queryPage_failingAt (s : MemoryStore) (q : RecordQuery) (c : Option String) :
    CallStore.queryPage s q c =
      (if s.failOnPage = some (s.pagesServed + 1) then .error (.simulated (s.pagesServed + 1))
        else (CallStore.queryPage (s.failingAt none) q c).1, s.served 1) :=
  rfl

/-- Without a mark no page read fails in this way. -/
theorem queryPage_ne_simulated (s : MemoryStore) (q : RecordQuery) (c : Option String) (n : Nat) :
    (CallStore.queryPage (s.failingAt none) q c).1 ≠ .error (.simulated n) := by
  show (offset c).bind (slice (s.matching q) s.pageSize) ≠ _
  have position {fault : StoreFault} (h : offset c = .error fault) : fault ≠ .simulated n := by
    unfold offset at h
    split at h
    · cases h
    · split at h <;> cases h
      simp
  have cut (o : Nat) : slice (s.matching q) s.pageSize o ≠ .error (.simulated n) := by
    unfold slice
    split <;> simp
  cases ho : offset c with
  | error fault => simpa [Except.bind] using position ho
  | ok o => exact cut o

/-- **Exactly the marked page read fails** in this way. -/
theorem queryPage_simulated_iff :
    (CallStore.queryPage s q c).1 = .error (.simulated n) ↔
      s.failOnPage = some n ∧ n = s.pagesServed + 1 := by
  rw [queryPage_failingAt]
  by_cases hf : s.failOnPage = some (s.pagesServed + 1)
  · rw [if_pos hf, hf]
    simp only [Except.error.injEq, StoreFault.simulated.injEq, Option.some.injEq]
    omega
  · rw [if_neg hf]
    refine iff_of_false (queryPage_ne_simulated s q c n) ?_
    rintro ⟨hn, rfl⟩
    exact hf hn

section Unmarked

variable {outcome : Except StoreFault RecordPage} {s' : MemoryStore}

/-- A page read is counted, whatever comes of it. -/
theorem served_of_queryPage (h : CallStore.queryPage (s.failingAt none) q c = (outcome, s')) :
    s' = (s.served 1).failingAt none :=
  (congrArg Prod.snd h).symm

/-- A page read that is not the marked one is that of the store with no mark. -/
theorem queryPage_of_other (other : s.failOnPage ≠ some (s.pagesServed + 1))
    (h : CallStore.queryPage (s.failingAt none) q c = (outcome, s')) :
    CallStore.queryPage s q c = (outcome, s.served 1) := by
  rw [queryPage_failingAt, if_neg other, h]

end Unmarked

/-- Batch reads take no notice of the mark. -/
theorem keepsBatches_failingAt (page : Option Nat) : KeepsBatches (failingAt page) := by
  intro s tenant ids
  show batch _ _ _ = (batch _ _ _).map id _
  unfold batch
  split <;> rfl

/-! ## Scans -/

/-- The next page read fails, or the failure falls among those after it. -/
theorem meetsFailure_succ :
    s.MeetsFailure (pages + 1) ↔
      s.failOnPage = some (s.pagesServed + 1) ∨ (s.served 1).MeetsFailure pages := by
  constructor
  · rintro ⟨n, hf, after, within⟩
    rcases Nat.lt_or_ge (s.pagesServed + 1) n with later | next
    · exact .inr ⟨n, hf, later, by dsimp only [served]; omega⟩
    · exact .inl (by rw [hf]; congr 1; omega)
  · rintro (hf | ⟨n, hf, after, within⟩)
    · exact ⟨_, hf, by omega, by omega⟩
    · dsimp only [served] at hf after within
      exact ⟨n, hf, by omega, by omega⟩

/-- A page read that does not meet the failure is that of the store with no mark. -/
theorem queryPage_of_no_failure (spared : ¬ s.MeetsFailure (pages + 1))
    {outcome : Except StoreFault RecordPage} {s' : MemoryStore}
    (h : CallStore.queryPage (s.failingAt none) q c = (outcome, s')) :
    CallStore.queryPage s q c = (outcome, s.served 1) :=
  queryPage_of_other (not_or.mp (mt meetsFailure_succ.mpr spared)).1 h

end MemoryStore

section Scans

open MemoryStore

variable {s s₀ t : MemoryStore} {q : RecordQuery} {c : Option String} {n pages : Nat}
  {r : Except StoreFault (List CallRecord)}

/-- **A scan that does not meet the failure** is that of the store with no mark. -/
theorem Scans.of_no_failure (h : Scans q s₀ c pages r t) (unmarked : s₀ = s.failingAt none)
    (spared : ¬ s.MeetsFailure pages) : Scans q s c pages r (s.served pages) := by
  -- page by page along the scan of the unmarked store, whose number of page reads is the same
  induction h generalizing s with
  | fault h =>
    subst unmarked
    exact .fault (queryPage_of_no_failure spared h)
  | last h hn =>
    subst unmarked
    exact .last (queryPage_of_no_failure spared h) hn
  | more h hn rest ih =>
    subst unmarked
    have left := ih (served_of_queryPage h) (not_or.mp (mt meetsFailure_succ.mpr spared)).2
    rw [Nat.add_comm, ← served_served, Nat.add_comm]
    exact .more (queryPage_of_no_failure spared h) hn left

/-- A scan whose next page read is the marked one reads no other. -/
theorem Scans.of_failure_now (hf : s.failOnPage = some n) (next : n = s.pagesServed + 1) :
    Scans q s c (n - s.pagesServed) (.error (.simulated n)) (s.served (n - s.pagesServed)) := by
  have one : n - s.pagesServed = 1 := by omega
  rw [one, next]
  refine .fault ?_
  rw [queryPage_failingAt, if_pos (next ▸ hf)]

/-- **A scan that meets the failure** goes up to it and returns nothing of what it read. -/
theorem Scans.of_failure (h : Scans q s₀ c pages r t) (unmarked : s₀ = s.failingAt none)
    (hf : s.failOnPage = some n) (after : s.pagesServed < n) (within : n ≤ s.pagesServed + pages) :
    Scans q s c (n - s.pagesServed) (.error (.simulated n)) (s.served (n - s.pagesServed)) := by
  induction h generalizing s with
  | fault h => exact of_failure_now hf (by omega)
  | last h hn => exact of_failure_now hf (by omega)
  | more h hn rest ih =>
    rcases Nat.lt_or_ge (s.pagesServed + 1) n with later | soon
    · subst unmarked
      have other : s.failOnPage ≠ some (s.pagesServed + 1) := by
        rw [hf, ne_eq, Option.some.injEq]
        omega
      have left := ih (served_of_queryPage h) hf later (by dsimp only [served]; omega)
      have pages : n - s.pagesServed = n - (s.served 1).pagesServed + 1 := by
        dsimp only [served]
        omega
      rw [pages, Nat.add_comm, ← served_served, Nat.add_comm]
      exact .more (queryPage_of_other other h) hn left
    · exact of_failure_now hf (by omega)

end Scans

/-! ## All records of a query -/

namespace MemoryStore

variable {s : MemoryStore} {q : RecordQuery} {n : Nat}

theorem pagesFor_le (s : MemoryStore) (q : RecordQuery) :
    s.pagesFor q ≤ CallStore.held s + 1 :=
  (pageCount_le _ s.pageSize_pos).trans (Nat.succ_le_succ (length_found_le q s.items))

/-- **Records are read as from the store with no mark** if the failure is not met. -/
theorem readRecords_of_no_failure (spared : ¬ s.MeetsFailure (s.pagesFor q)) :
    readRecords s q =
      (.ok ((found q s.items).filterMap CallRecord.ofItem?), s.served (s.pagesFor q)) :=
  readRecords_eq_of_scans ((scans_found (s := s.failingAt none) rfl q).of_no_failure rfl spared)
    (pagesFor_le s q)

/-- **No records are read** if the failure is met. -/
theorem readRecords_of_failure (hf : s.failOnPage = some n) (after : s.pagesServed < n)
    (within : n ≤ s.pagesServed + s.pagesFor q) :
    readRecords s q = (.error (.simulated n), s.served (n - s.pagesServed)) := by
  have scan := (scans_found (s := s.failingAt none) rfl q).of_failure rfl hf after within
  refine readRecords_eq_of_scans scan (le_trans ?_ (pagesFor_le s q))
  omega

/-- **Records that are read** are those of the items found, marked or not. -/
theorem readRecords_ok {records : List CallRecord} {s' : MemoryStore}
    (h : readRecords s q = (.ok records, s')) :
    records = (found q s.items).filterMap CallRecord.ofItem? ∧ s' = s.served (s.pagesFor q) := by
  by_cases met : s.MeetsFailure (s.pagesFor q)
  · obtain ⟨n, hf, after, within⟩ := met
    rw [readRecords_of_failure hf after within] at h
    cases h
  · rw [readRecords_of_no_failure met] at h
    cases h
    exact ⟨rfl, rfl⟩

end MemoryStore

end CallMeter
