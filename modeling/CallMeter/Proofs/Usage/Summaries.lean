import CallMeter.Proofs.Store.Profiles
import CallMeter.Proofs.Usage.Aggregate
import CallMeter.Usage.Service
import Mathlib.Data.List.Nodup

/-!
# Summaries of records

The rows of a summary stand in an order in which no two rows of one summary are equal, so the
rows do not show the order in which their tallies were kept. With the profiles read off the
deployments, the summary of records is a function of the records alone, and the same for any
order of them.

## Main definitions

* `summaryFrom`: the summary of records, given the deployment of each use case
* `rowFrom`: the row of a use case, from its own calls
* `Gives`, `Fails`: a store gives what a summary needs, or fails it

## Main results

* `build_perm`: a summary does not show the order of its tallies
* `summaryFrom_perm`: nor that of its records
* `mem_rows_summaryFrom`: a row depends on its own use case only
* `filter_rows_summaryFrom`: rows stay as long as their own use cases do
* `gives_or_fails`, `summarize_of_gives`, `summarize_of_fails`: the two outcomes of a summary
* `summarize_eq`: what a portal answers once its records are read
-/

namespace CallMeter

open Pricing (RateCard)

/-! ## The order of rows -/

namespace UseCaseRow

variable {a b c : UseCaseRow}

theorem precedes_iff :
    a.precedes b = true ↔ b.figures.calls < a.figures.calls ∨
      a.figures.calls = b.figures.calls ∧ a.useCase ≤ b.useCase := by
  simp [precedes]

theorem precedes_trans (a b c : UseCaseRow) (hab : a.precedes b = true)
    (hbc : b.precedes c = true) : a.precedes c = true := by
  rw [precedes_iff] at *
  rcases hab with hab | ⟨eab, hab⟩ <;> rcases hbc with hbc | ⟨ebc, hbc⟩
  · exact .inl (UInt64.lt_trans hbc hab)
  · exact .inl (ebc ▸ hab)
  · exact .inl (eab ▸ hbc)
  · exact .inr ⟨eab.trans ebc, hab.trans hbc⟩

theorem precedes_total (a b : UseCaseRow) : (a.precedes b || b.precedes a) = true := by
  rw [Bool.or_eq_true, precedes_iff, precedes_iff]
  by_cases hc : a.figures.calls = b.figures.calls
  · rcases le_total a.useCase b.useCase with h | h
    · exact .inl (.inr ⟨hc, h⟩)
    · exact .inr (.inr ⟨hc.symm, h⟩)
  · rcases UInt64.lt_or_lt_of_ne hc with h | h
    · exact .inr (.inl h)
    · exact .inl (.inl h)

/-- Rows that stand before each other are of one use case. -/
theorem precedes_antisymm (hab : a.precedes b = true) (hba : b.precedes a = true) :
    a.useCase = b.useCase := by
  rw [precedes_iff] at hab hba
  rcases hab with hab | ⟨eab, hab⟩ <;> rcases hba with hba | ⟨eba, hba⟩
  · exact absurd hba (UInt64.lt_asymm hab)
  · exact absurd hab (eba ▸ UInt64.lt_irrefl _)
  · exact absurd hba (eab ▸ UInt64.lt_irrefl _)
  · exact le_antisymm hab hba

/-- **The order of rows is one**: rows of different use cases that stand in order can stand in
no other. -/
theorem eq_of_ordered {rows rows' : List UseCaseRow} (h : rows.Perm rows')
    (once : (rows.map useCase).Nodup) (ordered : rows.Pairwise (precedes · · = true))
    (ordered' : rows'.Pairwise (precedes · · = true)) : rows = rows' := by
  refine h.eq_of_pairwise ?_ ordered ordered'
  intro a b ha hb hab hba
  exact List.inj_on_of_nodup_map once ha (h.mem_iff.mpr hb) (precedes_antisymm hab hba)

theorem ordered_mergeSort (rows : List UseCaseRow) :
    (rows.mergeSort precedes).Pairwise (precedes · · = true) :=
  List.pairwise_mergeSort precedes_trans precedes_total rows

/-- Rows of different use cases can be sorted in one way only. -/
theorem mergeSort_perm_eq {rows rows' : List UseCaseRow} (h : rows.Perm rows')
    (once : (rows.map useCase).Nodup) : rows.mergeSort precedes = rows'.mergeSort precedes := by
  have perm : (rows.mergeSort precedes).Perm (rows'.mergeSort precedes) :=
    (List.mergeSort_perm rows _).trans (h.trans (List.mergeSort_perm rows' _).symm)
  have once' : ((rows.mergeSort precedes).map useCase).Nodup :=
    ((List.mergeSort_perm rows _).map _).nodup_iff.mpr once
  exact eq_of_ordered perm once' (ordered_mergeSort rows) (ordered_mergeSort rows')

end UseCaseRow

/-! ## Summaries -/

/-- **A summary does not show the order of its tallies.** -/
theorem Summary.build_perm {usage usage' : Usage} (total : usage.total = usage'.total)
    (rows : usage.byUseCase.Perm usage'.byUseCase) (once : (usage.byUseCase.map Prod.fst).Nodup)
    (tenant : String) (window : Window) (profiles : List (String × Profile)) (card : RateCard) :
    build tenant window usage profiles card = build tenant window usage' profiles card := by
  have useCases : (rowsOf usage profiles card).map UseCaseRow.useCase =
      usage.byUseCase.map Prod.fst := by
    simp [rowsOf, UseCaseRow.ofTally, Function.comp_def]
  have sorted : (rowsOf usage profiles card).mergeSort UseCaseRow.precedes =
      (rowsOf usage' profiles card).mergeSort UseCaseRow.precedes :=
    UseCaseRow.mergeSort_perm_eq (rows.map _) (useCases ▸ once)
  simp only [build, total, sorted]

/-- **The summary of records**, given the deployment of each use case. -/
def summaryFrom (find : String → Option Deployment) (card : RateCard) (tenant : String)
    (window : Window) (records : List CallRecord) : Summary :=
  let usage := Usage.ofRecords records
  .build tenant window usage (profilesFrom find (usage.byUseCase.map Prod.fst)) card

/-- **A summary does not depend on the order of its records.** -/
theorem summaryFrom_perm (find : String → Option Deployment) (card : RateCard) (tenant : String)
    (window : Window) {records records' : List CallRecord} (h : records.Perm records') :
    summaryFrom find card tenant window records = summaryFrom find card tenant window records' := by
  have rows := Usage.byUseCase_ofRecords_perm h
  have profiles := profilesFrom_congr find fun id => (rows.map Prod.fst).mem_iff (a := id)
  rw [summaryFrom, summaryFrom, profiles]
  exact Summary.build_perm (Usage.total_ofRecords_perm h) rows (Usage.nodup_useCases records)
    tenant window _ card

/-- Records without a use case do not show in a summary. -/
theorem summaryFrom_counted (find : String → Option Deployment) (card : RateCard)
    (tenant : String) (window : Window) (records : List CallRecord) :
    summaryFrom find card tenant window (Usage.counted records) =
      summaryFrom find card tenant window records := by
  rw [summaryFrom, Usage.ofRecords_counted, ← summaryFrom]

/-! ## One row -/

/-- **The row of a use case**, from its deployment and its own calls. -/
def rowFrom (find : String → Option Deployment) (card : RateCard) (id : String)
    (records : List CallRecord) : UseCaseRow :=
  .ofTally card (profileOf find id) id (.ofCalls (Usage.callsOf id records))

section Rows

variable {find : String → Option Deployment} {card : RateCard} {tenant : String}
  {window : Window} {records records' : List CallRecord}

/-- Each use case with calls has one row. -/
theorem nodup_rows_summaryFrom :
    ((summaryFrom find card tenant window records).rows.map UseCaseRow.useCase).Nodup :=
  (Summary.rows_perm tenant window _ _ card).nodup_iff.mpr (Usage.nodup_useCases records)

/-- **The rows of a summary** are those of the use cases with calls, and none depends on the
calls or the deployments of the others. -/
theorem mem_rows_summaryFrom (filed : ∀ id d, find id = some d → d.useCase = id)
    {row : UseCaseRow} :
    row ∈ (summaryFrom find card tenant window records).rows ↔
      Usage.callsOf row.useCase records ≠ [] ∧ row = rowFrom find card row.useCase records := by
  have entry {id : String} {t : Tally} (h : (id, t) ∈ (Usage.ofRecords records).byUseCase) :
      Usage.callsOf id records ≠ [] ∧
        UseCaseRow.ofTally card ((Entries.get? id (profilesFrom find
          ((Usage.ofRecords records).byUseCase.map Prod.fst))).getD (.unknown id)) id t =
          rowFrom find card id records := by
    have known : id ∈ (Usage.ofRecords records).byUseCase.map Prod.fst :=
      List.mem_map.mpr ⟨(id, t), h, rfl⟩
    obtain ⟨calls, rfl⟩ := Usage.mem_byUseCase_ofRecords.mp h
    exact ⟨calls, by rw [get?_profilesFrom filed known, rowFrom]⟩
  show row ∈ (Summary.rowsOf _ _ card).mergeSort _ ↔ _
  rw [List.mem_mergeSort, Summary.rowsOf, List.mem_map]
  constructor
  · rintro ⟨⟨id, t⟩, h, rfl⟩
    obtain ⟨calls, e⟩ := entry h
    exact ⟨calls, e⟩
  · rintro ⟨calls, e⟩
    have h := Usage.mem_byUseCase_ofRecords.mpr ⟨calls, rfl⟩
    exact ⟨_, h, (entry h).2.trans e.symm⟩

/-- **Rows stay** as long as the calls and the deployments of their use cases do, whatever happens
to those of the others. -/
theorem filter_rows_summaryFrom {find' : String → Option Deployment}
    (filed : ∀ id d, find id = some d → d.useCase = id)
    (filed' : ∀ id d, find' id = some d → d.useCase = id) (shown : String → Bool)
    (found : ∀ id, shown id = true → find' id = find id)
    (calls : ∀ id, shown id = true →
      (Usage.callsOf id records').Perm (Usage.callsOf id records)) :
    ((summaryFrom find' card tenant window records').rows.filter fun row => shown row.useCase) =
      (summaryFrom find card tenant window records).rows.filter fun row => shown row.useCase := by
  have once (f : String → Option Deployment) (rs : List CallRecord) :
      (((summaryFrom f card tenant window rs).rows.filter fun row => shown row.useCase).map
        UseCaseRow.useCase).Nodup :=
    (List.filter_sublist.map _).nodup nodup_rows_summaryFrom
  have ordered (f : String → Option Deployment) (rs : List CallRecord) :
      ((summaryFrom f card tenant window rs).rows.filter fun row => shown row.useCase).Pairwise
        (UseCaseRow.precedes · · = true) :=
    (UseCaseRow.ordered_mergeSort _).filter _
  -- both lists of rows are in order, so it is enough that they have the same rows
  refine UseCaseRow.eq_of_ordered ?_ (once _ _) (ordered _ _) (ordered _ _)
  refine (List.perm_ext_iff_of_nodup (.of_map _ (once _ _)) (.of_map _ (once _ _))).mpr ?_
  intro row
  rw [List.mem_filter, List.mem_filter, mem_rows_summaryFrom filed, mem_rows_summaryFrom filed']
  refine and_congr_left fun hrow => ?_
  have perm := calls row.useCase hrow
  have none : Usage.callsOf row.useCase records' = [] ↔ Usage.callsOf row.useCase records = [] := by
    rw [← List.length_eq_zero_iff, perm.length_eq, List.length_eq_zero_iff]
  have profile : profileOf find' row.useCase = profileOf find row.useCase := by
    rw [profileOf, profileOf, found _ hrow]
  rw [rowFrom, rowFrom, profile, Tally.ofCalls_perm perm, Ne, none]

end Rows

/-! ## What a portal answers -/

section Outcomes

variable {σ : Type} [CallStore σ] {p : Portal σ} {tenant : String} {window : Window}

/-- **A store gives what a summary needs**: the records of a query, and then the profiles of their
use cases. -/
def Gives (s : σ) (q : RecordQuery) (records : List CallRecord)
    (profiles : List (String × Profile)) : Prop :=
  ∃ s' s'', readRecords s q = (.ok records, s') ∧
    resolveProfiles s' q.tenant ((Usage.ofRecords records).byUseCase.map Prod.fst) =
      (.ok profiles, s'')

/-- **A store fails a summary**: the records cannot be read, or the profiles of their use cases
cannot. -/
def Fails (s : σ) (q : RecordQuery) (fault : StoreFault) : Prop :=
  (∃ s', readRecords s q = (.error fault, s')) ∨
    ∃ records s' s'', readRecords s q = (.ok records, s') ∧
      resolveProfiles s' q.tenant ((Usage.ofRecords records).byUseCase.map Prod.fst) =
        (.error fault, s'')

/-- A store does one or the other. -/
theorem gives_or_fails (s : σ) (q : RecordQuery) :
    (∃ records profiles, Gives s q records profiles) ∨ ∃ fault, Fails s q fault := by
  rcases read : readRecords s q with ⟨fault | records, s'⟩
  · exact .inr ⟨fault, .inl ⟨s', read⟩⟩
  · rcases resolved : resolveProfiles s' q.tenant
      ((Usage.ofRecords records).byUseCase.map Prod.fst) with ⟨fault | profiles, s''⟩
    · exact .inr ⟨fault, .inr ⟨records, s', s'', read, resolved⟩⟩
    · exact .inl ⟨records, profiles, s', s'', read, resolved⟩

/-- **What a store gives** is summed up. -/
theorem Portal.summarize_of_gives {records : List CallRecord} {profiles : List (String × Profile)}
    (h : Gives p.store (window.query tenant) records profiles) (card : RateCard) :
    (p.summarize card tenant window).1 =
      .ok (.build tenant window (.ofRecords records) profiles card) := by
  obtain ⟨s', s'', read, resolved⟩ := h
  change resolveProfiles s' tenant _ = _ at resolved
  simp only [summarize, read, summaryOfRecords, resolved]
  rfl

/-- **A read that fails** ends a summary. -/
theorem Portal.summarize_of_fails {fault : StoreFault}
    (h : Fails p.store (window.query tenant) fault) (card : RateCard) :
    (p.summarize card tenant window).1 = .error (.store fault) := by
  rcases h with ⟨s', read⟩ | ⟨records, s', s'', read, resolved⟩
  · simp only [summarize, read]
  · change resolveProfiles s' tenant _ = _ at resolved
    simp only [summarize, read, summaryOfRecords, resolved]
    rfl

end Outcomes

section Portal

variable {σ : Type} [CallStore σ] [HoldsDeployments σ]

open HoldsDeployments (deployments)

/-- A store that shows its deployments gives their profiles, whatever records were read. -/
theorem gives_of_read {s s' : σ} {q : RecordQuery} {records : List CallRecord}
    (read : readRecords s q = (.ok records, s')) :
    Gives s q records (profilesFrom (fun id => (deployments s').find? q.tenant id)
      ((Usage.ofRecords records).byUseCase.map Prod.fst)) := by
  obtain ⟨s'', profiles, -⟩ :=
    resolveProfiles_eq s' q.tenant ((Usage.ofRecords records).byUseCase.map Prod.fst)
  exact ⟨s', s'', read, profiles⟩

/-- **A portal whose records are read** answers with their summary: reading the profiles never
fails. -/
theorem Portal.summarize_eq {p : Portal σ} {tenant : String} {window : Window}
    {records : List CallRecord} {s : σ}
    (read : readRecords p.store (window.query tenant) = (.ok records, s)) (card : RateCard) :
    (p.summarize card tenant window).1 =
      .ok (summaryFrom (fun id => (deployments s).find? tenant id) card tenant window records) :=
  summarize_of_gives (gives_of_read read) card

end Portal

end CallMeter
