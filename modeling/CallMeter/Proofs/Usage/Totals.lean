import CallMeter.Proofs.Usage.Aggregate
import CallMeter.Usage.Summary

/-!
# Totals and rows

The records that count fall into those of the use cases, each into exactly one. So the figures
of all calls can be computed from the rows: counts add up exactly, sums add up to the largest
counter, wherever on the way they stopped there, and the last call is the last of the rows.

## Main definitions

* `Summary.sumOver`, `Usage.sumOver`: the exact sum of a counter over the rows, and over the
  tallies of the use cases
* `Summary.TotalsAgree`: the totals are those of the rows

## Main results

* `min_sum_min`: summands may stop at a bound if the sum does
* `flatMap_callsOf_perm`: the records that count, use case by use case
* `toNat_total_of_count`, `toNat_total_of_sum`: the total of a count and of a sum
* `totalsAgree_build`: the totals of a summary agree with its rows
-/

namespace CallMeter

open Pricing (RateCard PricedModel)

/-! ## Sums and greatest elements by parts -/

/-- Summands may stop at a bound if the sum stops there too. -/
theorem min_sum_min (bound : Nat) (l : List Nat) :
    min (l.map fun n => min n bound).sum bound = min l.sum bound := by
  induction l with
  | nil => rfl
  | cons n l ih =>
    rw [List.map_cons, List.sum_cons, List.sum_cons]
    omega

/-- The greatest text of some lists is the greatest of their greatest ones. -/
theorem max?_flatMap {α : Type} (l : List α) (f : α → List String) :
    (l.flatMap f).max? = (l.filterMap fun a => (f a).max?).max? := by
  ext s
  rw [List.max?_eq_some_iff, List.max?_eq_some_iff]
  simp only [List.mem_flatMap, List.mem_filterMap, forall_exists_index, and_imp]
  constructor
  · rintro ⟨⟨a, ha, hs⟩, greatest⟩
    refine ⟨⟨a, ha, List.max?_eq_some_iff.mpr ⟨hs, fun b hb => greatest b a ha hb⟩⟩, ?_⟩
    intro b a' ha' hb
    exact greatest b a' ha' (List.max?_eq_some_iff.mp hb).1
  · rintro ⟨⟨a, ha, hs⟩, greatest⟩
    refine ⟨⟨a, ha, (List.max?_eq_some_iff.mp hs).1⟩, ?_⟩
    intro b a' ha' hb
    obtain ⟨m, hm⟩ := Option.isSome_iff_exists.mp (List.isSome_max?_of_mem hb)
    exact ((List.max?_eq_some_iff.mp hm).2 b hb).trans (greatest m a' ha' hm)

/-- The elements that have one of some keys, key by key. -/
theorem flatMap_filter_perm {α κ : Type} [DecidableEq κ] (key : α → Option κ) {keys : List κ}
    (once : keys.Nodup) (l : List α) :
    (keys.flatMap fun k => l.filter fun a => key a = some k).Perm
      (l.filter fun a => (key a).any (· ∈ keys)) := by
  induction keys with
  | nil => simp
  | cons k keys ih =>
    obtain ⟨new, once'⟩ := List.nodup_cons.mp once
    set known := l.filter fun a => (key a).any (· ∈ k :: keys) with hknown
    have here : (l.filter fun a => key a = some k) = known.filter fun a => key a = some k := by
      rw [hknown, List.filter_filter]
      refine List.filter_congr fun a _ => ?_
      cases key a <;> simp +contextual
    have there : (l.filter fun a => (key a).any (· ∈ keys)) =
        known.filter fun a => !decide (key a = some k) := by
      rw [hknown, List.filter_filter]
      refine List.filter_congr fun a _ => ?_
      cases hk : key a with
      | none => simp
      | some k' =>
        have apart (h : k' ∈ keys) : k' ≠ k := fun e => new (e ▸ h)
        by_cases h : k' ∈ keys <;> simp [h, apart]
    rw [List.flatMap_cons]
    calc (l.filter fun a => key a = some k) ++
          keys.flatMap (fun k => l.filter fun a => key a = some k)
        |>.Perm ((l.filter fun a => key a = some k) ++
          l.filter fun a => (key a).any (· ∈ keys)) := (ih once').append_left _
      _ = (known.filter fun a => key a = some k) ++
          known.filter fun a => !decide (key a = some k) := by rw [here, there]
      _ |>.Perm known := List.filter_append_perm _ known

/-! ## The tallies of use cases -/

namespace Usage

/-- The use cases that have a tally. -/
def useCases (usage : Usage) : List String :=
  usage.byUseCase.map Prod.fst

/-- **The records that count**, use case by use case. -/
theorem flatMap_callsOf_perm (rs : List CallRecord) :
    ((ofRecords rs).useCases.flatMap fun id => callsOf id rs).Perm (counted rs) := by
  refine (flatMap_filter_perm CallRecord.useCase (nodup_useCases rs) rs).trans (.of_eq ?_)
  refine List.filter_congr fun r hr => ?_
  cases hid : r.useCase with
  | none => rfl
  | some id =>
    have known : id ∈ (ofRecords rs).byUseCase.map Prod.fst :=
      mem_useCases.mpr (List.ne_nil_of_mem (List.mem_filter.mpr ⟨hr, by simpa using hid⟩))
    simpa using known

theorem byUseCase_eq (rs : List CallRecord) :
    (ofRecords rs).byUseCase =
      (ofRecords rs).useCases.map fun id => (id, .ofCalls (callsOf id rs)) := by
  rw [useCases, List.map_map]
  refine (List.map_id _).symm.trans (List.map_congr_left fun e he => ?_)
  exact Prod.ext rfl (mem_byUseCase_ofRecords.mp he).2

/-- The exact sum of a counter over the tallies of the use cases. -/
def sumOver (usage : Usage) (f : Tally → UInt64) : Nat :=
  (usage.byUseCase.map fun e => (f e.2).toNat).sum

theorem sumOver_ofRecords (rs : List CallRecord) (f : Tally → UInt64) :
    (ofRecords rs).sumOver f =
      ((ofRecords rs).useCases.map fun id => (f (.ofCalls (callsOf id rs))).toNat).sum := by
  rw [sumOver, byUseCase_eq, List.map_map]
  rfl

variable {rs : List CallRecord} {f : Tally → UInt64}

/-- **The total of a count** is the exact sum over the use cases: no counter starts over. -/
theorem toNat_total_of_count {p : CallRecord → Bool}
    (count : ∀ l, f (.ofCalls l) = UInt64.ofNat (l.countP p)) (few : rs.length < UInt64.size) :
    (f (ofRecords rs).total).toNat = (ofRecords rs).sumOver f := by
  have counts (q : CallRecord → Bool) :
      (f (.ofCalls (rs.filter q))).toNat = (rs.filter q).countP p := by
    have le : (rs.filter q).countP p ≤ rs.length :=
      List.countP_le_length.trans (List.length_filter_le q rs)
    rw [count, UInt64.toNat_ofNat']
    exact Nat.mod_eq_of_lt (Nat.lt_of_le_of_lt le few)
  calc (f (ofRecords rs).total).toNat
      = (counted rs).countP p := by rw [total_ofRecords, counted, counts]
    _ = ((ofRecords rs).useCases.map fun id => (callsOf id rs).countP p).sum := by
        rw [← (flatMap_callsOf_perm rs).countP_eq, List.countP_flatMap]
        rfl
    _ = (ofRecords rs).sumOver f := by
        rw [sumOver_ofRecords]
        simp only [callsOf, counts]

/-- A sum over the records that count, use case by use case. -/
theorem sum_counted (rs : List CallRecord) (g : CallRecord → Nat) :
    ((counted rs).map g).sum =
      ((ofRecords rs).useCases.map fun id => ((callsOf id rs).map g).sum).sum := by
  rw [← ((flatMap_callsOf_perm rs).map g).sum_nat, List.map_flatMap, List.flatMap_def,
    List.sum_flatten, List.map_map]
  rfl

/-- **The total of a sum** is the sum over the use cases, up to the largest counter. -/
theorem toNat_total_of_sum {g : CallRecord → Nat}
    (sum : ∀ l, f (.ofCalls l) = Counter.ofNat (l.map g).sum) :
    (f (ofRecords rs).total).toNat = min ((ofRecords rs).sumOver f) Counter.limit := by
  -- the sums of some use cases may have stopped at the largest counter before they are added
  rw [total_ofRecords, sumOver_ofRecords, sum, Counter.toNat_ofNat, sum_counted, ← min_sum_min,
    List.map_map]
  simp only [sum, Counter.toNat_ofNat, Function.comp_def]

/-- **The last call** is the last one of the use cases. -/
theorem lastCallAt_total (rs : List CallRecord) :
    (ofRecords rs).total.lastCallAt =
      ((ofRecords rs).byUseCase.filterMap fun e => e.2.lastCallAt).max? := by
  calc (ofRecords rs).total.lastCallAt
      = ((counted rs).filterMap CallRecord.startedAt).max? := by rw [total_ofRecords]; rfl
    _ = ((ofRecords rs).useCases.flatMap fun id =>
          (callsOf id rs).filterMap CallRecord.startedAt).max? := by
        rw [← max?_perm ((flatMap_callsOf_perm rs).filterMap _), List.filterMap_flatMap]
    _ = ((ofRecords rs).useCases.filterMap fun id =>
          (Tally.ofCalls (callsOf id rs)).lastCallAt).max? := max?_flatMap _ _
    _ = ((ofRecords rs).byUseCase.filterMap fun e => e.2.lastCallAt).max? := by
        rw [byUseCase_eq, List.filterMap_map]
        rfl

end Usage

/-! ## The rows of a summary -/

namespace Summary

/-- The exact sum of a figure over the rows. -/
def sumOver (s : Summary) (f : Figures → UInt64) : Nat :=
  (s.rows.map fun row => (f row.figures).toNat).sum

/-- **The totals agree with the rows** of a summary of records, and the tally of all calls with
those of the use cases. -/
structure TotalsAgree (rs : List CallRecord) (s : Summary) : Prop where
  calls : s.totals.figures.calls.toNat = s.sumOver Figures.calls
  endedCalls : s.totals.figures.endedCalls.toNat = s.sumOver Figures.endedCalls
  errorCalls : s.totals.figures.errorCalls.toNat = s.sumOver Figures.errorCalls
  inputTokens :
    s.totals.figures.inputTokens.toNat = min (s.sumOver Figures.inputTokens) Counter.limit
  outputTokens :
    s.totals.figures.outputTokens.toNat = min (s.sumOver Figures.outputTokens) Counter.limit
  turns : (Usage.ofRecords rs).total.turns.toNat =
    min ((Usage.ofRecords rs).sumOver Tally.turns) Counter.limit
  latencyMs : (Usage.ofRecords rs).total.latencyMs.toNat =
    min ((Usage.ofRecords rs).sumOver Tally.latencyMs) Counter.limit
  durationMs : (Usage.ofRecords rs).total.durationMs.toNat =
    min ((Usage.ofRecords rs).sumOver Tally.durationMs) Counter.limit
  lastCallAt :
    s.totals.figures.lastCallAt = (s.rows.filterMap fun row => row.figures.lastCallAt).max?
  noLastCall : s.totals.figures.lastCallAt = none ↔ ∀ row ∈ s.rows, row.figures.lastCallAt = none
  /-- The totals count the records with a use case. -/
  countedCalls : s.totals.figures.calls.toNat = (Usage.counted rs).length
  /-- A row counts the records of its use case. -/
  rowCalls : ∀ row ∈ s.rows, row.figures.calls.toNat = (Usage.callsOf row.useCase rs).length
  /-- A record that counts is one of exactly one row. -/
  oneRow : ∀ r ∈ Usage.counted rs, s.rows.countP (fun row => r.useCase = some row.useCase) = 1

variable {tenant : String} {window : Window} {usage : Usage} {profiles : List (String × Profile)}
  {card : RateCard}

/-- The rows show the tallies of the use cases. -/
theorem figures_rows_perm {α : Type} (f : Figures → α) (g : Tally → α)
    (shown : ∀ t card model, f (.ofTally t card model) = g t) :
    ((build tenant window usage profiles card).rows.map fun row => f row.figures).Perm
      (usage.byUseCase.map fun e => g e.2) := by
  refine ((List.mergeSort_perm _ _).map _).trans (.of_eq ?_)
  rw [rowsOf, List.map_map]
  exact List.map_congr_left fun e _ => shown e.2 card _

theorem sumOver_build (f : Figures → UInt64) (g : Tally → UInt64)
    (shown : ∀ t card model, f (.ofTally t card model) = g t) :
    (build tenant window usage profiles card).sumOver f = usage.sumOver g := by
  refine (figures_rows_perm (fun x => (f x).toNat) (fun t => (g t).toNat) ?_).sum_nat
  intro t card model
  rw [shown]

variable {rs : List CallRecord}

/-- **A count of the totals** is the sum over the rows. -/
theorem toNat_totals_of_count (f : Figures → UInt64) (g : Tally → UInt64)
    (shown : ∀ t card model, f (.ofTally t card model) = g t) (p : CallRecord → Bool)
    (count : ∀ l, g (.ofCalls l) = UInt64.ofNat (l.countP p)) (few : rs.length < UInt64.size) :
    (f (build tenant window (.ofRecords rs) profiles card).totals.figures).toNat =
      (build tenant window (.ofRecords rs) profiles card).sumOver f := by
  rw [sumOver_build f g shown, ← Usage.toNat_total_of_count count few, ← shown]
  rfl

/-- **A sum of the totals** is the sum over the rows, up to the largest counter. -/
theorem toNat_totals_of_sum (f : Figures → UInt64) (g : Tally → UInt64)
    (shown : ∀ t card model, f (.ofTally t card model) = g t) (h : CallRecord → Nat)
    (sum : ∀ l, g (.ofCalls l) = Counter.ofNat (l.map h).sum) :
    (f (build tenant window (.ofRecords rs) profiles card).totals.figures).toNat =
      min ((build tenant window (.ofRecords rs) profiles card).sumOver f) Counter.limit := by
  rw [sumOver_build f g shown, ← Usage.toNat_total_of_sum sum, ← shown]
  rfl

/-- **The last call of the totals** is the last one of the rows. -/
theorem lastCallAt_totals :
    (build tenant window (.ofRecords rs) profiles card).totals.figures.lastCallAt =
      ((build tenant window (.ofRecords rs) profiles card).rows.filterMap fun row =>
        row.figures.lastCallAt).max? := by
  have shown : ((build tenant window (.ofRecords rs) profiles card).rows.map fun row =>
      row.figures.lastCallAt).Perm ((Usage.ofRecords rs).byUseCase.map fun e => e.2.lastCallAt) :=
    figures_rows_perm _ Tally.lastCallAt fun _ _ _ => rfl
  have starts := max?_perm (shown.filterMap id)
  rw [List.filterMap_map, List.filterMap_map] at starts
  exact (Usage.lastCallAt_total rs).trans starts.symm

/-- **A row of records** shows the tally of its use case. -/
theorem figures_of_mem_rows {row : UseCaseRow}
    (h : row ∈ (build tenant window (.ofRecords rs) profiles card).rows) :
    ∃ model, row.figures = .ofTally (.ofCalls (Usage.callsOf row.useCase rs)) card model := by
  obtain ⟨⟨id, t⟩, he, rfl⟩ := List.mem_map.mp (List.mem_mergeSort.mp h)
  obtain ⟨-, rfl⟩ := Usage.mem_byUseCase_ofRecords.mp he
  exact ⟨_, rfl⟩

/-- **A record that counts is one of exactly one row.** -/
theorem countP_rows_eq_one {r : CallRecord} (h : r ∈ Usage.counted rs) :
    (build tenant window (.ofRecords rs) profiles card).rows.countP
      (fun row => r.useCase = some row.useCase) = 1 := by
  obtain ⟨hr, hsome⟩ := List.mem_filter.mp h
  obtain ⟨id, hid⟩ := Option.isSome_iff_exists.mp hsome
  have known : id ∈ (Usage.ofRecords rs).byUseCase.map Prod.fst :=
    Usage.mem_useCases.mpr (List.ne_nil_of_mem (List.mem_filter.mpr ⟨hr, by simpa using hid⟩))
  have one := (Usage.nodup_useCases rs).count (a := id)
  rw [if_pos known, ← (rows_perm tenant window _ profiles card).count_eq, List.count,
    List.countP_map] at one
  rw [← one]
  refine List.countP_congr fun row _ => ?_
  rw [hid, Function.comp_apply, decide_eq_true_iff, beq_iff_eq, Option.some_inj]
  exact eq_comm

/-- **The totals agree with the rows.** In a summary of fewer records than a counter can count,
the counts of the totals are the sums over the rows, their sums those over the rows up to the
largest counter, and each record that counts is one of exactly one row. -/
theorem totalsAgree_build (rs : List CallRecord) (few : rs.length < UInt64.size)
    (tenant : String) (window : Window) (profiles : List (String × Profile)) (card : RateCard) :
    (build tenant window (.ofRecords rs) profiles card).TotalsAgree rs where
  calls := toNat_totals_of_count _ Tally.calls (fun _ _ _ => rfl) (fun _ => true)
    (fun l => by rw [List.countP_true]; rfl) few
  endedCalls := toNat_totals_of_count _ Tally.endedCalls (fun _ _ _ => rfl) _ (fun _ => rfl) few
  errorCalls := toNat_totals_of_count _ Tally.errorCalls (fun _ _ _ => rfl) _ (fun _ => rfl) few
  inputTokens := toNat_totals_of_sum _ Tally.inputTokens (fun _ _ _ => rfl) _ fun _ => rfl
  outputTokens := toNat_totals_of_sum _ Tally.outputTokens (fun _ _ _ => rfl) _ fun _ => rfl
  turns := Usage.toNat_total_of_sum fun _ => rfl
  latencyMs := Usage.toNat_total_of_sum fun _ => rfl
  durationMs := Usage.toNat_total_of_sum fun _ => rfl
  lastCallAt := lastCallAt_totals
  noLastCall := by rw [lastCallAt_totals, List.max?_eq_none_iff, List.filterMap_eq_nil_iff]
  countedCalls := by
    have le : (Usage.counted rs).length ≤ rs.length := List.length_filter_le _ _
    show (Usage.ofRecords rs).total.calls.toNat = _
    rw [Usage.total_ofRecords]
    exact UInt64.toNat_ofNat_of_lt' (le.trans_lt few)
  rowCalls := by
    intro row h
    obtain ⟨model, hrow⟩ := figures_of_mem_rows h
    have le : (Usage.callsOf row.useCase rs).length ≤ rs.length := List.length_filter_le _ _
    rw [hrow]
    exact UInt64.toNat_ofNat_of_lt' (le.trans_lt few)
  oneRow _ := countP_rows_eq_one

/-- Two use cases, one of which reaches the largest counter on its own. -/
theorem totalsAgree_build_of_large_calls :
    let call (id : String) : CallRecord :=
      ⟨none, some id, some "2024-05-02T09", none, none, true, false, 3, 250, 0x8000000000000000,
        0x8000000000000000⟩
    let rs := [call "booking", call "support", call "booking"]
    rs.length < UInt64.size ∧
      (build "acme" ⟨7, "2024-05-01", "2024-05-08"⟩ (.ofRecords rs) [] .default).TotalsAgree
        rs := by
  intro call rs
  have few : rs.length < UInt64.size := by decide
  exact ⟨few, totalsAgree_build rs few _ _ _ _⟩

end Summary

end CallMeter
