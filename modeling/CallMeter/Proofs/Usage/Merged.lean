import CallMeter.Proofs.Usage.Aggregate

/-!
# Usage in one pass

Usage is built record by record, each count one up and each sum stopping at the largest counter
wherever it gets there. What a whole list of records leaves is said of the list at once: exact
counts, exact sums up to the largest counter, and the greatest start. So the usage of two lists,
one after the other, is put together from that of each, tally by tally.

## Main definitions

* `Tally.Aggregates`: a tally holds the aggregates of some calls
* `Tally.HasRoom`: each count of a tally can go one up
* `Tally.merge`: two tallies in one
* `Usage.FoldsExactly`: what the usage of a list of records holds, and how it comes about

## Main results

* `aggregates_ofCalls`: the tally of fewer calls than a counter can count
* `ofCalls_append`: calls one after the other give merged tallies
* `tally?_append`, `total_append`: and so do records
* `ofRecords_foldsExactly`: usage in one pass is the aggregate of its records
-/

namespace CallMeter

namespace Tally

/-! ## One tally -/

/-- **A tally aggregates some calls**: it counts them, sums their figures up to the largest counter
and shows the greatest start among them. -/
structure Aggregates (t : Tally) (rs : List CallRecord) : Prop where
  calls : t.calls.toNat = rs.length
  endedCalls : t.endedCalls.toNat = rs.countP CallRecord.ended
  errorCalls : t.errorCalls.toNat = rs.countP CallRecord.hasError
  turns : t.turns.toNat = min (2 ^ 64 - 1) (rs.map fun r => r.turns.toNat).sum
  latencyMs : t.latencyMs.toNat = min (2 ^ 64 - 1) (rs.map fun r => r.latencyMs.toNat).sum
  durationMs : t.durationMs.toNat = min (2 ^ 64 - 1) (rs.map fun r => r.durationMs.toNat).sum
  inputTokens : t.inputTokens.toNat = min (2 ^ 64 - 1) (rs.map fun r => r.inputTokens.toNat).sum
  outputTokens :
    t.outputTokens.toNat = min (2 ^ 64 - 1) (rs.map fun r => r.outputTokens.toNat).sum
  lastCallAt : ∀ start, t.lastCallAt = some start ↔
    (∃ r ∈ rs, r.startedAt = some start) ∧
      ∀ r ∈ rs, ∀ other, r.startedAt = some other → other ≤ start
  noLastCall : t.lastCallAt = none ↔ ∀ r ∈ rs, r.startedAt = none

/-- **Each count can go one up** without starting over. -/
structure HasRoom (t : Tally) : Prop where
  calls : t.calls.toNat + 1 < 2 ^ 64
  endedCalls : t.endedCalls.toNat + 1 < 2 ^ 64
  errorCalls : t.errorCalls.toNat + 1 < 2 ^ 64

variable {rs : List CallRecord}

/-- **The tally of calls** aggregates them, if there are fewer than a counter can count. -/
theorem aggregates_ofCalls (few : rs.length < 2 ^ 64) : (ofCalls rs).Aggregates rs := by
  have count (p : CallRecord → Bool) : (UInt64.ofNat (rs.countP p)).toNat = rs.countP p :=
    UInt64.toNat_ofNat_of_lt' (List.countP_le_length.trans_lt few)
  have sum (f : CallRecord → UInt64) :
      (Counter.ofNat (rs.map fun r => (f r).toNat).sum).toNat =
        min (2 ^ 64 - 1) (rs.map fun r => (f r).toNat).sum := by
    rw [Counter.toNat_ofNat, Nat.min_comm]
    rfl
  constructor
  · exact UInt64.toNat_ofNat_of_lt' few
  · exact count _
  · exact count _
  · exact sum CallRecord.turns
  · exact sum CallRecord.latencyMs
  · exact sum CallRecord.durationMs
  · exact sum CallRecord.inputTokens
  · exact sum CallRecord.outputTokens
  · intro start
    refine List.max?_eq_some_iff.trans ?_
    simp only [List.mem_filterMap, forall_exists_index, and_imp]
    exact and_congr_right fun _ => ⟨fun h r hr s hs => h s r hr hs, fun h s r hr hs => h r hr s hs⟩
  · exact List.max?_eq_none_iff.trans List.filterMap_eq_nil_iff

/-- Counts of fewer calls leave room for one more. -/
theorem Aggregates.hasRoom {t : Tally} (h : t.Aggregates rs) (room : rs.length + 1 < 2 ^ 64) :
    t.HasRoom where
  calls := h.calls ▸ room
  endedCalls := by
    have le : rs.countP CallRecord.ended ≤ rs.length := List.countP_le_length
    rw [h.endedCalls]
    omega
  errorCalls := by
    have le : rs.countP CallRecord.hasError ≤ rs.length := List.countP_le_length
    rw [h.errorCalls]
    omega

/-! ## Two tallies in one -/

/-- **Two tallies in one**, as if the calls of the second had followed those of the first. -/
def merge (t u : Tally) : Tally where
  calls := t.calls + u.calls
  endedCalls := t.endedCalls + u.endedCalls
  errorCalls := t.errorCalls + u.errorCalls
  turns := Counter.add t.turns u.turns
  latencyMs := Counter.add t.latencyMs u.latencyMs
  durationMs := Counter.add t.durationMs u.durationMs
  inputTokens := Counter.add t.inputTokens u.inputTokens
  outputTokens := Counter.add t.outputTokens u.outputTokens
  lastCallAt := latest t.lastCallAt u.lastCallAt

/-- The greatest of some starts and of some more. -/
theorem latest_max?_max? (starts others : List String) :
    latest starts.max? others.max? = (starts ++ others).max? := by
  cases hm : others.max? with
  | none =>
    rw [List.max?_eq_none_iff.mp hm, List.append_nil]
    exact (latest_max? starts none).trans (congrArg List.max? (List.append_nil starts))
  | some m =>
    obtain ⟨mem, greatest⟩ := List.max?_eq_some_iff.mp hm
    refine (latest_max? starts (some m)).trans (Option.ext fun s => ?_)
    simp only [Option.toList_some, List.max?_eq_some_iff, List.mem_append, List.mem_singleton]
    constructor
    · rintro ⟨hs, le⟩
      refine ⟨hs.imp_right fun (e : s = m) => e ▸ mem, ?_⟩
      rintro b (hb | hb)
      · exact le b (.inl hb)
      · exact (greatest b hb).trans (le m (.inr rfl))
    · rintro ⟨hs, le⟩
      refine ⟨hs.imp_right fun hs => le_antisymm (greatest s hs) (le m (.inr mem)), ?_⟩
      rintro b (hb | rfl)
      · exact le b (.inl hb)
      · exact le b (.inr mem)

/-- **Calls one after the other** give merged tallies. -/
theorem ofCalls_append (rs rs' : List CallRecord) :
    ofCalls (rs ++ rs') = (ofCalls rs).merge (ofCalls rs') := by
  have sum (f : CallRecord → UInt64) :
      Counter.ofNat ((rs ++ rs').map fun r => (f r).toNat).sum =
        Counter.add (Counter.ofNat (rs.map fun r => (f r).toNat).sum)
          (Counter.ofNat (rs'.map fun r => (f r).toNat).sum) := by
    rw [← Counter.ofNat_add, List.map_append, List.sum_append]
  simp only [ofCalls, merge, List.length_append, List.countP_append, List.filterMap_append,
    UInt64.ofNat_add, latest_max?_max?]
  simp only [sum CallRecord.turns, sum CallRecord.latencyMs, sum CallRecord.durationMs,
    sum CallRecord.inputTokens, sum CallRecord.outputTokens]

end Tally

/-! ## Usage -/

namespace Usage

/-- **Usage of a list of records**, one after the other: each use case that has records has one
tally, which aggregates them; the total aggregates all records with a use case; a list cut in two
gives the tallies of its parts merged; and no count on the way starts over. -/
structure FoldsExactly (rs : List CallRecord) : Prop where
  once : ((ofRecords rs).byUseCase.map Prod.fst).Nodup
  useCases : ∀ id, ((ofRecords rs).tally? id).isSome ↔ ∃ r ∈ rs, r.useCase = some id
  tally : ∀ id t, (ofRecords rs).tally? id = some t →
    t.Aggregates (rs.filter fun r => r.useCase = some id)
  total : (ofRecords rs).total.Aggregates (rs.filter fun r => r.useCase.isSome)
  merged : ∀ xs ys, rs = xs ++ ys →
    (ofRecords rs).total = (ofRecords xs).total.merge (ofRecords ys).total ∧
      ∀ id, (ofRecords rs).tally? id =
        Option.merge Tally.merge ((ofRecords xs).tally? id) ((ofRecords ys).tally? id)
  /-- Before each record, every tally has room for one more call. -/
  room : ∀ before r after, rs = before ++ r :: after →
    (ofRecords before).total.HasRoom ∧
      ∀ id t, (ofRecords before).tally? id = some t → t.HasRoom

variable {rs : List CallRecord}

/-- **The tally of a use case** aggregates its records. -/
theorem aggregates_of_tally? (few : rs.length < 2 ^ 64) {id : String} {t : Tally}
    (h : (ofRecords rs).tally? id = some t) : t.Aggregates (callsOf id rs) := by
  rw [tally?_ofRecords] at h
  split at h
  · cases h
  · cases h
    exact Tally.aggregates_ofCalls ((List.length_filter_le _ _).trans_lt few)

theorem aggregates_total (few : rs.length < 2 ^ 64) :
    (ofRecords rs).total.Aggregates (counted rs) := by
  rw [total_ofRecords]
  exact Tally.aggregates_ofCalls ((List.length_filter_le _ _).trans_lt few)

/-- **The total of two lists** is the total of each, merged. -/
theorem total_append (xs ys : List CallRecord) :
    (ofRecords (xs ++ ys)).total = (ofRecords xs).total.merge (ofRecords ys).total := by
  rw [total_ofRecords, total_ofRecords, total_ofRecords, counted, List.filter_append,
    Tally.ofCalls_append]
  rfl

/-- **The tallies of two lists** are those of each, merged where both have one. -/
theorem tally?_append (xs ys : List CallRecord) (id : String) :
    (ofRecords (xs ++ ys)).tally? id =
      Option.merge Tally.merge ((ofRecords xs).tally? id) ((ofRecords ys).tally? id) := by
  have calls : callsOf id (xs ++ ys) = callsOf id xs ++ callsOf id ys := List.filter_append ..
  rw [tally?_ofRecords, tally?_ofRecords, tally?_ofRecords, calls]
  by_cases hx : callsOf id xs = []
  · rw [hx, List.nil_append, if_pos rfl]
    split <;> rfl
  · by_cases hy : callsOf id ys = []
    · rw [hy, List.append_nil, if_neg hx, if_pos rfl]
      rfl
    · rw [if_neg (List.append_ne_nil_of_left_ne_nil hx _), if_neg hx, if_neg hy,
        Tally.ofCalls_append]
      rfl

/-- **Usage in one pass is the aggregate of its records**, if there are fewer than a counter can
count. -/
theorem ofRecords_foldsExactly (rs : List CallRecord) (few : rs.length < 2 ^ 64) :
    FoldsExactly rs where
  once := nodup_useCases rs
  useCases id := by
    rw [tally?_ofRecords, callsOf]
    split
    · next none =>
      refine iff_of_false Bool.false_ne_true ?_
      rintro ⟨r, hr, hid⟩
      exact List.filter_eq_nil_iff.mp none r hr (decide_eq_true hid)
    · next some =>
      obtain ⟨r, hr⟩ := List.exists_mem_of_ne_nil _ some
      obtain ⟨hr, hid⟩ := List.mem_filter.mp hr
      exact iff_of_true rfl ⟨r, hr, of_decide_eq_true hid⟩
  tally id t h := aggregates_of_tally? few h
  total := aggregates_total few
  merged xs ys h := by
    subst h
    exact ⟨total_append xs ys, tally?_append xs ys⟩
  room before r after h := by
    have shorter : before.length + 1 < 2 ^ 64 := by
      subst h
      refine Nat.lt_of_le_of_lt ?_ few
      rw [List.length_append, List.length_cons]
      omega
    have room (p : CallRecord → Bool) : (before.filter p).length + 1 < 2 ^ 64 :=
      (Nat.succ_le_succ (List.length_filter_le p before)).trans_lt shorter
    have few' := (Nat.le_succ _).trans_lt shorter
    exact ⟨(aggregates_total few').hasRoom (room _), fun id t ht =>
      (aggregates_of_tally? few' ht).hasRoom (room _)⟩

/-- Two calls whose tokens reach the largest counter together, one of another use case, and one
without a use case. -/
theorem ofRecords_foldsExactly_of_large_calls :
    let call (useCase : Option String) (start : String) : CallRecord :=
      ⟨none, useCase, some start, none, none, true, false, 3, 250, 0x8000000000000000,
        0x8000000000000000⟩
    let rs := [call (some "booking") "2024-05-03", call none "2024-05-04",
      call (some "support") "2024-05-01", call (some "booking") "2024-05-02"]
    rs.length < 2 ^ 64 ∧ FoldsExactly rs := by
  intro call rs
  have few : rs.length < 2 ^ 64 := by decide
  exact ⟨few, ofRecords_foldsExactly rs few⟩

end Usage

end CallMeter
