import CallMeter.Tally
import Mathlib.Algebra.GroupWithZero.Nat
import Mathlib.Data.List.Induction
import Mathlib.Data.String.Basic

/-!
# Tallies as aggregates

A tally is built one call after the other. What it ends up with is said of the calls as a whole:
each count is a number of calls, each sum the exact sum up to the largest counter, and the last
call the greatest of the starts. None of these depends on the order of the calls.

## Main definitions

* `Tally.ofCalls`: the figures of a list of calls, each on its own
* `Usage.counted`, `Usage.callsOf`: the calls that count, and those of a use case

## Main results

* `total_ofRecords`, `tally?_ofRecords`: usage holds the aggregates of its records
* `mem_byUseCase_ofRecords`: the use cases of usage are those with records
* `byUseCase_ofRecords_perm`, `total_ofRecords_perm`: usage does not depend on their order
-/

namespace CallMeter

/-! ## The figures of a tally -/

/-- The greatest of some starts does not depend on their order. -/
theorem max?_perm {starts others : List String} (h : starts.Perm others) :
    starts.max? = others.max? := by
  ext s
  rw [List.max?_eq_some_iff, List.max?_eq_some_iff]
  simp only [h.mem_iff]

theorem latest_max? (starts : List String) (start : Option String) :
    latest starts.max? start = (starts ++ start.toList).max? := by
  cases start with
  | none => rw [Option.toList_none, List.append_nil]; cases starts.max? <;> rfl
  | some s =>
    cases starts with
    | nil => rfl
    | cons l rest =>
      rw [Option.toList_some, List.cons_append, List.max?_cons', List.max?_cons',
        List.foldl_append, List.foldl_cons, List.foldl_nil]
      simp only [latest, max_def_lt]
      split <;> rfl

namespace Tally

/-- **The tally of a list of calls**, each figure on its own. -/
def ofCalls (rs : List CallRecord) : Tally where
  calls := UInt64.ofNat rs.length
  endedCalls := UInt64.ofNat (rs.countP CallRecord.ended)
  errorCalls := UInt64.ofNat (rs.countP CallRecord.hasError)
  turns := Counter.ofNat (rs.map fun r => r.turns.toNat).sum
  latencyMs := Counter.ofNat (rs.map fun r => r.latencyMs.toNat).sum
  durationMs := Counter.ofNat (rs.map fun r => r.durationMs.toNat).sum
  inputTokens := Counter.ofNat (rs.map fun r => r.inputTokens.toNat).sum
  outputTokens := Counter.ofNat (rs.map fun r => r.outputTokens.toNat).sum
  lastCallAt := (rs.filterMap CallRecord.startedAt).max?

/-- One more call adds to every figure what it says. -/
theorem ofCalls_append_singleton (rs : List CallRecord) (r : CallRecord) :
    ofCalls (rs ++ [r]) = (ofCalls rs).record r := by
  have count (p : CallRecord → Bool) :
      UInt64.ofNat ((rs ++ [r]).countP p) =
        if p r then UInt64.ofNat (rs.countP p) + 1 else UInt64.ofNat (rs.countP p) := by
    rw [List.countP_append, List.countP_singleton]
    split
    · exact UInt64.ofNat_add _ _
    · rfl
  have sum (f : CallRecord → UInt64) :
      Counter.ofNat ((rs ++ [r]).map fun r => (f r).toNat).sum =
        Counter.add (Counter.ofNat (rs.map fun r => (f r).toNat).sum) (f r) := by
    rw [Counter.add_ofNat, List.map_append, List.sum_append, List.map_singleton,
      List.sum_singleton]
  have last : ((rs ++ [r]).filterMap CallRecord.startedAt).max? =
      latest (rs.filterMap CallRecord.startedAt).max? r.startedAt := by
    rw [latest_max?, List.filterMap_append]
    cases hs : r.startedAt <;> simp [hs]
  simp only [ofCalls, record, count, last, List.length_append, List.length_singleton,
    UInt64.ofNat_add]
  simp only [sum CallRecord.turns, sum CallRecord.latencyMs, sum CallRecord.durationMs,
    sum CallRecord.inputTokens, sum CallRecord.outputTokens]
  rfl

/-- **No figure depends on the order of the calls.** -/
theorem ofCalls_perm {rs rs' : List CallRecord} (h : rs.Perm rs') : ofCalls rs = ofCalls rs' := by
  have sum (f : CallRecord → Nat) : (rs.map f).sum = (rs'.map f).sum := (h.map f).sum_nat
  simp only [ofCalls, h.length_eq, h.countP_eq, max?_perm (h.filterMap CallRecord.startedAt), sum]

end Tally

/-! ## The tallies of usage -/

namespace Usage

/-- The records that count: those with a use case. -/
def counted (rs : List CallRecord) : List CallRecord :=
  rs.filter fun r => r.useCase.isSome

/-- The records of a use case. -/
def callsOf (useCase : String) (rs : List CallRecord) : List CallRecord :=
  rs.filter fun r => r.useCase = some useCase

theorem ofRecords_append_singleton (rs : List CallRecord) (r : CallRecord) :
    ofRecords (rs ++ [r]) = (ofRecords rs).record r := by
  rw [ofRecords, List.foldl_append]
  rfl

/-- **The total** is the tally of all records that count. -/
theorem total_ofRecords (rs : List CallRecord) :
    (ofRecords rs).total = .ofCalls (counted rs) := by
  induction rs using List.reverseRecOn with
  | nil => rfl
  | append_singleton rs r ih =>
    rw [ofRecords_append_singleton, record, counted, List.filter_append, ← counted]
    cases hr : r.useCase with
    | none => rw [List.filter_cons_of_neg (by simp [hr]), List.filter_nil, List.append_nil, ih]
    | some id =>
      rw [List.filter_cons_of_pos (by simp [hr]), List.filter_nil,
        Tally.ofCalls_append_singleton, ih]

/-- **The tally of a use case** is that of its records; without records there is none. -/
theorem tally?_ofRecords (rs : List CallRecord) (id : String) :
    (ofRecords rs).tally? id =
      if callsOf id rs = [] then none else some (.ofCalls (callsOf id rs)) := by
  induction rs using List.reverseRecOn with
  | nil => rfl
  | append_singleton rs r ih =>
    rw [ofRecords_append_singleton, record, callsOf, List.filter_append, ← callsOf]
    cases hr : r.useCase with
    | none => rw [List.filter_cons_of_neg (by simp [hr]), List.filter_nil, List.append_nil, ih]
    | some other =>
      simp only [tally?, Entries.get?_put]
      by_cases he : other = id
      · subst he
        have before : ((ofRecords rs).tally? other).getD .empty = .ofCalls (callsOf other rs) := by
          rw [ih]
          split
          · next none => rw [none]; rfl
          · rfl
        rw [if_pos rfl, List.filter_cons_of_pos (by simp [hr]), List.filter_nil,
          if_neg (List.append_ne_nil_of_right_ne_nil _ (List.cons_ne_nil _ _)),
          Tally.ofCalls_append_singleton, ← before]
        rfl
      · rw [if_neg he, List.filter_cons_of_neg (by simp [hr, he]), List.filter_nil,
          List.append_nil]
        exact ih

theorem nodup_useCases (rs : List CallRecord) :
    ((ofRecords rs).byUseCase.map Prod.fst).Nodup := by
  induction rs using List.reverseRecOn with
  | nil => exact List.nodup_nil
  | append_singleton rs r ih =>
    rw [ofRecords_append_singleton, record]
    split
    · exact ih
    · exact Entries.nodup_keys_put _ _ ih

/-- **The use cases of usage** are those with records, each with the tally of its own. -/
theorem mem_byUseCase_ofRecords {rs : List CallRecord} {id : String} {t : Tally} :
    (id, t) ∈ (ofRecords rs).byUseCase ↔ callsOf id rs ≠ [] ∧ t = .ofCalls (callsOf id rs) := by
  rw [Entries.mem_iff_get? (nodup_useCases rs), ← tally?, tally?_ofRecords]
  by_cases h : callsOf id rs = []
  · simp [h]
  · simp [h, eq_comm]

theorem mem_useCases {rs : List CallRecord} {id : String} :
    id ∈ (ofRecords rs).byUseCase.map Prod.fst ↔ callsOf id rs ≠ [] := by
  rw [List.mem_map]
  constructor
  · rintro ⟨⟨id, t⟩, he, rfl⟩
    exact (mem_byUseCase_ofRecords.mp he).1
  · intro h
    exact ⟨(id, .ofCalls (callsOf id rs)), mem_byUseCase_ofRecords.mpr ⟨h, rfl⟩, rfl⟩

/-- Records without a use case leave usage as it is. -/
theorem ofRecords_counted (rs : List CallRecord) : ofRecords (counted rs) = ofRecords rs := by
  induction rs using List.reverseRecOn with
  | nil => rfl
  | append_singleton rs r ih =>
    rw [counted, List.filter_append, ← counted, ofRecords_append_singleton]
    cases hr : r.useCase with
    | none =>
      rw [List.filter_cons_of_neg (by simp [hr]), List.filter_nil, List.append_nil, ih, record, hr]
    | some id =>
      rw [List.filter_cons_of_pos (by simp [hr]), List.filter_nil, ofRecords_append_singleton, ih]

variable {rs rs' : List CallRecord}

theorem total_ofRecords_perm (h : rs.Perm rs') : (ofRecords rs).total = (ofRecords rs').total := by
  rw [total_ofRecords, total_ofRecords]
  exact Tally.ofCalls_perm (h.filter _)

/-- **The tallies of the use cases** do not depend on the order of the records, their own order
aside. -/
theorem byUseCase_ofRecords_perm (h : rs.Perm rs') :
    (ofRecords rs).byUseCase.Perm (ofRecords rs').byUseCase := by
  apply Entries.perm_of_get? (nodup_useCases rs) (nodup_useCases rs')
  intro id
  have calls : (callsOf id rs).Perm (callsOf id rs') := h.filter _
  have none : callsOf id rs = [] ↔ callsOf id rs' = [] := by
    rw [← List.length_eq_zero_iff, calls.length_eq, List.length_eq_zero_iff]
  calc (ofRecords rs).tally? id
      = if callsOf id rs = [] then .none else some (.ofCalls (callsOf id rs)) :=
        tally?_ofRecords rs id
    _ = if callsOf id rs' = [] then .none else some (.ofCalls (callsOf id rs')) := by
        rw [if_congr none rfl rfl, Tally.ofCalls_perm calls]
    _ = (ofRecords rs').tally? id := (tally?_ofRecords rs' id).symm

end Usage

end CallMeter
