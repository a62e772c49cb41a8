import CallMeter.Proofs.Usage.Dated
import CallMeter.Proofs.Usage.Failures

/-!
# Well-formed summaries

Whatever is stored, an answer makes sense on its own. Each use case has one row, and the row has
calls, a last call in the window and a name. The figures of a row, and those of all calls, fit
together.

## Main definitions

* `Figures.WellFormed`, `UseCaseRow.WellFormed`, `Summary.WellFormed`: what holds of every answer
* `Portal.AnswersWellFormed`: a portal gives well-formed answers

## Main results

* `wellFormed_ofTally`: the figures of calls in a window
* `wellFormed_rowFrom`, `wellFormed_summaryFrom`: a row, and the summary of records
* `summaries_wellFormed`: every answer of either store is well-formed
-/

namespace CallMeter

open Pricing (RateCard PricedModel)

/-! ## Figures -/

/-- **Well-formed figures** of some calls in a window. -/
structure Figures.WellFormed (w : Window) (calls : List CallRecord) (f : Figures) : Prop where
  endedCalls_le : f.endedCalls ≤ f.calls
  errorCalls_le : f.errorCalls ≤ f.calls
  noLastCall : f.lastCallAt = none ↔ f.calls = 0
  lastCallAt : ∀ start, f.lastCallAt = some start → w.startIso ≤ start ∧ start ≤ w.endIso
  noMinutes : f.billableMinutes = 0 ↔ (calls.map fun r => r.durationMs.toNat).sum = 0

section Figures

variable {w : Window} {calls : List CallRecord}

theorem Tally.toNat_calls_ofCalls (few : calls.length < UInt64.size) :
    (Tally.ofCalls calls).calls.toNat = calls.length :=
  UInt64.toNat_ofNat_of_lt' few

theorem Tally.calls_ofCalls_eq_zero (few : calls.length < UInt64.size) :
    (Tally.ofCalls calls).calls = 0 ↔ calls = [] := by
  rw [← UInt64.toNat_inj, toNat_calls_ofCalls few, UInt64.toNat_zero, List.length_eq_zero_iff]

/-- A count of some calls is at most the count of all. -/
theorem Tally.count_le_calls (few : calls.length < UInt64.size) (p : CallRecord → Bool) :
    UInt64.ofNat (calls.countP p) ≤ (Tally.ofCalls calls).calls := by
  have le : calls.countP p ≤ calls.length := List.countP_le_length
  rw [UInt64.le_iff_toNat_le, toNat_calls_ofCalls few,
    UInt64.toNat_ofNat_of_lt' (le.trans_lt few)]
  exact le

theorem Tally.durationMs_ofCalls_eq_zero :
    (Tally.ofCalls calls).durationMs = 0 ↔ (calls.map fun r => r.durationMs.toNat).sum = 0 := by
  show Counter.ofNat _ = 0 ↔ _
  have room : 0 < Counter.limit := by decide
  rw [← UInt64.toNat_inj, Counter.toNat_ofNat, UInt64.toNat_zero]
  omega

/-- There is a last call exactly if there are calls, each of which shows a start. -/
theorem Tally.lastCallAt_ofCalls_eq_none (dated : ∀ r ∈ calls, r.startedAt.isSome) :
    (Tally.ofCalls calls).lastCallAt = none ↔ calls = [] := by
  show (calls.filterMap CallRecord.startedAt).max? = none ↔ _
  rw [List.max?_eq_none_iff, List.filterMap_eq_nil_iff]
  constructor
  · intro none
    refine List.eq_nil_iff_forall_not_mem.mpr fun r hr => ?_
    have shown := dated r hr
    rw [none r hr] at shown
    cases shown
  · rintro rfl r hr
    cases hr

/-- **The figures of calls in a window are well-formed.** -/
theorem Figures.wellFormed_ofTally (few : calls.length < UInt64.size)
    (inWindow : ∀ r ∈ calls, r.InWindow w) (card : RateCard) (model : Option PricedModel) :
    (Figures.ofTally (.ofCalls calls) card model).WellFormed w calls where
  endedCalls_le := Tally.count_le_calls few CallRecord.ended
  errorCalls_le := Tally.count_le_calls few CallRecord.hasError
  noLastCall := by
    have dated : ∀ r ∈ calls, r.startedAt.isSome := by
      intro r hr
      obtain ⟨start, hstart, -⟩ := (inWindow r hr).startedAt
      rw [hstart, Option.isSome_some]
    exact (Tally.lastCallAt_ofCalls_eq_none dated).trans (Tally.calls_ofCalls_eq_zero few).symm
  lastCallAt := by
    intro start hlast
    obtain ⟨hmem, -⟩ := List.max?_eq_some_iff.mp hlast
    obtain ⟨r, hr, hstart⟩ := List.mem_filterMap.mp hmem
    obtain ⟨start', hstart', bounds⟩ := (inWindow r hr).startedAt
    obtain rfl := Option.some.inj (hstart'.symm.trans hstart)
    exact bounds
  noMinutes := by
    refine (Pricing.billableMinutes_eq_zero_iff _ _).trans ?_
    rw [Tally.calls_ofCalls_eq_zero few, Tally.durationMs_ofCalls_eq_zero]
    refine or_iff_right_of_imp ?_
    rintro rfl
    rfl

end Figures

/-! ## Rows -/

/-- **A well-formed row** for the calls of its use case in a window. -/
structure UseCaseRow.WellFormed (w : Window) (calls : List CallRecord) (row : UseCaseRow) :
    Prop where
  useCase : Text.isBlank row.useCase = false
  name : Text.isBlank row.name = false
  modelHint : ∀ hint, row.modelHint = some hint → Text.isBlank hint = false
  calls_pos : 1 ≤ row.figures.calls
  lastCallAt : ∃ start, row.figures.lastCallAt = some start ∧
    w.startIso ≤ start ∧ start ≤ w.endIso
  figures : row.figures.WellFormed w calls

theorem not_blank_of_firstPresent {candidates : List (Option String)} {s : String}
    (h : firstPresent candidates = some s) : Text.isBlank s = false := by
  have found := List.find?_some h
  rwa [Bool.not_eq_true'] at found

/-- A candidate that is not blank keeps the choice from being empty. -/
theorem firstPresent_isSome {candidates : List (Option String)} {s : String}
    (h : some s ∈ candidates) (notBlank : Text.isBlank s = false) :
    (firstPresent candidates).isSome := by
  rw [firstPresent, List.find?_isSome]
  exact ⟨s, List.mem_filterMap.mpr ⟨some s, h, rfl⟩, by rw [notBlank]; rfl⟩

section Profiles

variable {find : String → Option Deployment} {id : String}

/-- **A use case has a name**: its id stands in for a blank one. -/
theorem displayName_profileOf (filed : ∀ id d, find id = some d → d.useCase = id)
    (notBlank : Text.isBlank id = false) :
    Text.isBlank (profileOf find id).displayName = false := by
  unfold profileOf
  split
  · exact notBlank
  · cases hd : find id with
    | none => exact notBlank
    | some d =>
      have named : Text.isBlank d.useCase = false := filed id d hd ▸ notBlank
      have present : (firstPresent [d.displayName, some d.useCase]).isSome :=
        firstPresent_isSome (List.mem_cons_of_mem _ List.mem_cons_self) named
      obtain ⟨name, hname⟩ := Option.isSome_iff_exists.mp present
      show Text.isBlank ((firstPresent [d.displayName, some d.useCase]).getD "") = false
      rw [hname, Option.getD_some]
      exact not_blank_of_firstPresent hname

theorem modelHint_profileOf {hint : String} (h : (profileOf find id).modelHint = some hint) :
    Text.isBlank hint = false := by
  unfold profileOf at h
  split at h
  · cases h
  · cases hd : find id with
    | none =>
      rw [hd] at h
      cases h
    | some d =>
      rw [hd] at h
      exact not_blank_of_firstPresent h

end Profiles

/-! ## Summaries -/

/-- **A well-formed summary** of some records. -/
structure Summary.WellFormed (records : List CallRecord) (s : Summary) : Prop where
  once : (s.rows.map UseCaseRow.useCase).Nodup
  rows : ∀ row ∈ s.rows, row.WellFormed s.window (Usage.callsOf row.useCase records)
  totals : s.totals.figures.WellFormed s.window (Usage.counted records)
  noCall : s.totals.figures.calls = 0 ↔ s.rows = []

section Summaries

variable {find : String → Option Deployment} {card : RateCard} {tenant : String} {w : Window}
  {records : List CallRecord}

/-- **The row of a use case with calls is well-formed.** -/
theorem UseCaseRow.wellFormed_rowFrom (filed : ∀ id d, find id = some d → d.useCase = id)
    (few : records.length < UInt64.size) (inWindow : ∀ r ∈ records, r.InWindow w) {id : String}
    (some : Usage.callsOf id records ≠ []) :
    (rowFrom find card id records).WellFormed w (Usage.callsOf id records) := by
  have fewer : (Usage.callsOf id records).length < UInt64.size :=
    (List.length_filter_le _ _).trans_lt few
  have inside : ∀ r ∈ Usage.callsOf id records, r.InWindow w :=
    fun r hr => inWindow r (List.mem_filter.mp hr).1
  obtain ⟨r, hr⟩ := List.exists_mem_of_ne_nil _ some
  have named : Text.isBlank id = false :=
    (inside r hr).useCase id (of_decide_eq_true (List.mem_filter.mp hr).2)
  have figures : (rowFrom find card id records).figures.WellFormed w (Usage.callsOf id records) :=
    Figures.wellFormed_ofTally fewer inside card _
  have calls : (rowFrom find card id records).figures.calls ≠ 0 :=
    mt (Tally.calls_ofCalls_eq_zero fewer).mp some
  refine ⟨named, displayName_profileOf filed named, fun hint => modelHint_profileOf, ?_, ?_,
    figures⟩
  · rw [UInt64.le_iff_toNat_le]
    exact Nat.one_le_iff_ne_zero.mpr fun e => calls (UInt64.toNat_inj.mp e)
  · obtain ⟨start, hstart⟩ := Option.ne_none_iff_exists'.mp (mt figures.noLastCall.mp calls)
    exact ⟨start, hstart, figures.lastCallAt start hstart⟩

/-- A record counts exactly if it is one of a use case. -/
theorem Usage.mem_counted {r : CallRecord} :
    r ∈ counted records ↔ ∃ id, r ∈ callsOf id records := by
  simp only [counted, callsOf, List.mem_filter, decide_eq_true_iff, Option.isSome_iff_exists,
    exists_and_left]

theorem Summary.figures_totals_summaryFrom :
    (summaryFrom find card tenant w records).totals.figures =
      .ofTally (.ofCalls (Usage.counted records)) card card.costliest? := by
  rw [← Usage.total_ofRecords]
  rfl

/-- **The summary of records in a window is well-formed.** -/
theorem Summary.wellFormed_summaryFrom (filed : ∀ id d, find id = some d → d.useCase = id)
    (few : records.length < UInt64.size) (inWindow : ∀ r ∈ records, r.InWindow w) :
    (summaryFrom find card tenant w records).WellFormed records where
  once := nodup_rows_summaryFrom
  rows := by
    intro row hrow
    obtain ⟨some, e⟩ := (mem_rows_summaryFrom filed).mp hrow
    rw [e]
    exact UseCaseRow.wellFormed_rowFrom filed few inWindow some
  totals := by
    rw [figures_totals_summaryFrom]
    exact Figures.wellFormed_ofTally ((List.length_filter_le _ _).trans_lt few)
      (fun r hr => inWindow r (List.mem_filter.mp hr).1) card _
  noCall := by
    have fewer : (Usage.counted records).length < UInt64.size :=
      (List.length_filter_le _ _).trans_lt few
    show (Usage.ofRecords records).total.calls = 0 ↔ _
    rw [Usage.total_ofRecords, Tally.calls_ofCalls_eq_zero fewer]
    constructor
    · intro none
      refine List.eq_nil_iff_forall_not_mem.mpr fun row hrow => ?_
      obtain ⟨some, -⟩ := (mem_rows_summaryFrom filed).mp hrow
      obtain ⟨r, hr⟩ := List.exists_mem_of_ne_nil _ some
      exact List.not_mem_nil (none ▸ Usage.mem_counted.mpr ⟨row.useCase, hr⟩)
    · intro none
      refine List.eq_nil_iff_forall_not_mem.mpr fun r hr => ?_
      obtain ⟨id, hr⟩ := Usage.mem_counted.mp hr
      have row : rowFrom find card id records ∈ (summaryFrom find card tenant w records).rows :=
        (mem_rows_summaryFrom filed).mpr ⟨List.ne_nil_of_mem hr, rfl⟩
      exact List.not_mem_nil (none ▸ row)

end Summaries

/-! ## Answers -/

section Portal

variable {σ : Type} [CallStore σ] [HoldsDeployments σ]

open HoldsDeployments (deployments)

/-- An answer is the summary of records that were read. -/
theorem Portal.summarize_ok {p p' : Portal σ} {card : RateCard} {tenant : String} {w : Window}
    {summary : Summary} (h : p.summarize card tenant w = (.ok summary, p')) :
    ∃ records s, readRecords p.store (w.query tenant) = (.ok records, s) ∧
      summary = summaryFrom (fun id => (deployments s).find? tenant id) card tenant w records := by
  rcases hread : readRecords p.store (w.query tenant) with ⟨fault | records, s⟩
  · rw [summarize, hread] at h
    cases congrArg Prod.fst h
  · have answer := summarize_eq hread card
    rw [h] at answer
    exact ⟨records, s, rfl, Except.ok.inj answer⟩

/-- **Well-formed answers**: what a portal answers about a tenant is a well-formed summary of the
records that it reads in the window. -/
def Portal.AnswersWellFormed (p : Portal σ) (tenant : String) : Prop :=
  ∀ (card : RateCard) (days : Int) (now : Time.Instant) (summary : Summary) (p' : Portal σ),
    p.summaryAt card tenant days now = some (.ok summary, p') →
      Window.endingAt now (clampDays days) = some summary.window ∧
      ∃ records s, readRecords p.store (summary.window.query tenant) = (.ok records, s) ∧
        summary.WellFormed records

/-- **A store of dated records gives well-formed answers.** -/
theorem HoldsDated.answersWellFormed {p : Portal σ} {tenant : String} {dated : List DatedRecord}
    (h : HoldsDated p.store tenant dated) : p.AnswersWellFormed tenant := by
  intro card days now summary p' answer
  obtain ⟨w, hw, answer⟩ := Option.map_eq_some_iff.mp answer
  obtain ⟨records, s, read, rfl⟩ := Portal.summarize_ok answer
  refine ⟨hw, records, s, read, ?_⟩
  obtain ⟨perm, same⟩ := h.read _ rfl (Window.startIso_ne_empty hw) records s read
  apply Summary.wellFormed_summaryFrom
  · rw [same]
    exact h.filed tenant
  · exact perm.length_eq.trans_lt ((RecordQuery.length_inWindow_le _ dated).trans_lt h.few)
  · intro r hr
    exact inWindow_of_mem h.sound hw (perm.mem_iff.mp hr)

end Portal

/-- **Every summary is well-formed.** Whatever was written to a store, every answer about a tenant
has one row for each use case with calls, none of them blank, with figures that fit together and a
last call in the window. This holds of a memory store after any writes, page reads and summaries,
one page read of which may fail, and of a table after any writes, with items whose keys are
distinct, as those of JSON objects are, and not more of them than a counter can count. -/
theorem summaries_wellFormed (tenant : String) :
    (∀ (pageSize : UInt64) (mark : Option Nat) (requests : List Request),
      ((Portal.ofStore (MemoryStore.empty pageSize mark)).run MemoryStore.seed
        requests).AnswersWellFormed tenant) ∧
    ∀ (pageSize : Nat) (seeds : List Seed) (m : Metrics),
      (∀ item ∈ heldItems tenant seeds, item.KeysOnce) →
      (heldItems tenant seeds).length < UInt64.size →
        Portal.AnswersWellFormed ⟨TableStore.seeded pageSize seeds, m⟩ tenant := by
  constructor
  · intro pageSize mark requests
    have filed : (Portal.ofStore (MemoryStore.empty pageSize mark)).store.deployments.Filed :=
      Deployments.filed_nil
    exact (MemoryStore.holdsDated_memory (MemoryStore.filed_run filed requests)
      tenant).answersWellFormed
  · intro pageSize seeds m once few
    exact (TableStore.holdsDated_seeded pageSize once few).answersWellFormed

/-- One call in each store. The first page read of the memory store has failed before the call was
added. -/
theorem summaries_wellFormed_of_one_call :
    let call : Json :=
      .object [("useCaseId", .string "booking"), ("startedAt", .string "2024-05-02T09")]
    let seed : Seed := .item ⟨"acme", "a", call⟩
    let p := (Portal.ofStore (MemoryStore.empty 1 (some 1))).run MemoryStore.seed
      [.page ⟨"acme", "2024-05-01", "2024-05-08"⟩ none, .seed seed]
    let t : Portal TableStore := ⟨.seeded 9 [seed], .none⟩
    let now : Time.Instant := ⟨1714978800, 0⟩
    (∃ records summary p', p.summaryAt .default "acme" 7 now = some (.ok summary, p') ∧
      summary.WellFormed records) ∧
    ∃ records summary t', t.summaryAt .default "acme" 7 now = some (.ok summary, t') ∧
      summary.WellFormed records := by
  intro call seed p t now
  obtain ⟨memory, table⟩ := summaries_wellFormed "acme"
  let w : Window := ⟨7, (now.minusDays 7).toIso, now.toIso⟩
  have window : Window.endingAt now (clampDays 7) = some w :=
    Window.endingAt_of_inYears ⟨by decide, by decide⟩
  constructor
  · have spared : ¬ p.store.MeetsFailure (p.store.pagesFor (w.query "acme")) := by
      rintro ⟨n, hn, after, -⟩
      obtain rfl : 1 = n := Option.some.inj hn
      exact absurd after (by decide)
    obtain ⟨summary, p', answer, -⟩ := Portal.summarize_needs spared .default
    have answer := (p.summaryAt_of_window .default "acme" window).trans (congrArg some answer)
    obtain ⟨-, records, -, -, wellFormed⟩ := memory 1 (some 1)
      [.page ⟨"acme", "2024-05-01", "2024-05-08"⟩ none, .seed seed] .default 7 now summary p' answer
    exact ⟨records, summary, p', answer, wellFormed⟩
  · have start := Window.startIso_ne_empty window
    obtain ⟨records, read, -⟩ := TableStore.readRecords_seeded (q := w.query "acme") start 9 [seed]
    obtain ⟨summary, summarized⟩ : ∃ summary, (t.summarize .default "acme" w).1 = .ok summary :=
      ⟨_, Portal.summarize_eq (p := t) read .default⟩
    have answer : t.summaryAt .default "acme" 7 now =
        some (.ok summary, (t.summarize .default "acme" w).2) := by
      rw [t.summaryAt_of_window .default "acme" window, ← summarized]
    have once : ∀ item ∈ heldItems "acme" [seed], item.KeysOnce := by
      intro item hitem
      obtain rfl := List.mem_singleton.mp hitem
      simp [Json.KeysOnce, call]
    obtain ⟨-, records', -, -, wellFormed⟩ :=
      table 9 [seed] .none once (by decide) .default 7 now summary _ answer
    exact ⟨records', summary, _, answer, wellFormed⟩

end CallMeter
