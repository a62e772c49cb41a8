import CallMeter.Usage.Service

/-!
# Logged stores

The service is written for any store. So a map between stores that keeps the two kinds of reads
keeps all that the service computes, and a property of stores that reads keep is kept by every
summary. One such map takes away a log, in which a store notes what is read from it: the log
tells of every single read of a run, those inside a summary included, and changes no answer.

## Main definitions

* `KeepsBatches`, `KeepsReads`: maps of stores that keep batch reads, and all reads
* `Logged`: a store with the page reads and the batch reads so far

## Main results

* `KeepsReads.summarize`: such a map keeps summaries
* `summarize_preserves`: a summary keeps what each read keeps
* `keepsReads_unlogged`: taking the log away keeps all reads
-/

namespace CallMeter

open Pricing (RateCard)

variable {σ τ : Type} [CallStore σ] [CallStore τ]

/-! ## Maps of stores -/

/-- A portal over another store. -/
def Portal.map (f : σ → τ) (p : Portal σ) : Portal τ :=
  ⟨f p.store, p.metrics⟩

/-- A map of stores **keeps batch reads**: what they find and the store they leave. -/
def KeepsBatches (f : σ → τ) : Prop :=
  ∀ s tenant ids, CallStore.batch (f s) tenant ids = (CallStore.batch s tenant ids).map id f

/-- A map of stores **keeps reads** of both kinds, and the number of records held. -/
structure KeepsReads (f : σ → τ) : Prop where
  queryPage : ∀ s q c, CallStore.queryPage (f s) q c = (CallStore.queryPage s q c).map id f
  batch : KeepsBatches f
  held : ∀ s, CallStore.held (f s) = CallStore.held s

section Maps

variable {f : σ → τ}

theorem KeepsReads.scanFrom (h : KeepsReads f) (q : RecordQuery) (bound : Nat) (s : σ)
    (c : Option String) : scanFrom q bound (f s) c = (scanFrom q bound s c).map id f := by
  induction bound generalizing s c with
  | zero => rfl
  | succ bound ih =>
    rw [CallMeter.scanFrom, CallMeter.scanFrom, h.queryPage]
    obtain ⟨fault | page, s'⟩ := CallStore.queryPage s q c
    · rfl
    · obtain ⟨records, _ | next⟩ := page
      · rfl
      · simp only [Prod.map, id_eq, ih]

theorem KeepsReads.readRecords (h : KeepsReads f) (s : σ) (q : RecordQuery) :
    readRecords (f s) q = (readRecords s q).map id f := by
  rw [CallMeter.readRecords, CallMeter.readRecords, h.held, h.scanFrom]

theorem KeepsBatches.readBatches (h : KeepsBatches f) (tenant : String)
    (batches : List (List String)) (s : σ) :
    readBatches tenant batches (f s) = (readBatches tenant batches s).map id f := by
  induction batches generalizing s with
  | nil => rfl
  | cons ids rest ih =>
    rw [CallMeter.readBatches, CallMeter.readBatches, h]
    obtain ⟨fault | found, s'⟩ := CallStore.batch s tenant ids
    · rfl
    · simp only [Prod.map, id_eq, ih]

/-- **The summary of records** needs batch reads only. -/
theorem KeepsBatches.summaryOfRecords (h : KeepsBatches f) (s : σ) (card : RateCard)
    (tenant : String) (window : Window) (records : List CallRecord) :
    summaryOfRecords (f s) card tenant window records =
      (summaryOfRecords s card tenant window records).map id f := by
  simp only [CallMeter.summaryOfRecords, resolveProfiles, h.readBatches, Prod.map, id_eq]

/-- Records that are read alike give summaries alike. -/
theorem KeepsBatches.summarize (h : KeepsBatches f) {p : Portal σ} {tenant : String}
    {window : Window} (read : readRecords (f p.store) (window.query tenant) =
      (readRecords p.store (window.query tenant)).map id f) (card : RateCard) :
    (p.map f).summarize card tenant window = (p.summarize card tenant window).map id (.map f) := by
  rw [Portal.summarize, Portal.summarize, Portal.map, read]
  obtain ⟨fault | records, s⟩ := CallMeter.readRecords p.store (window.query tenant)
  · rfl
  · simp only [Prod.map, id_eq, h.summaryOfRecords]
    obtain ⟨fault | summary, s'⟩ := CallMeter.summaryOfRecords s card tenant window records <;> rfl

/-- **A map that keeps reads keeps summaries.** -/
theorem KeepsReads.summarize (h : KeepsReads f) (p : Portal σ) (card : RateCard)
    (tenant : String) (window : Window) :
    (p.map f).summarize card tenant window = (p.summarize card tenant window).map id (.map f) :=
  h.batch.summarize (h.readRecords p.store _) card

end Maps

/-! ## What reads preserve -/

section Preserved

variable {P : σ → Prop}

/-- **A scan preserves** what each page read preserves. -/
theorem scanFrom_preserves (pages : ∀ s q c, P s → P (CallStore.queryPage s q c).2)
    (q : RecordQuery) (bound : Nat) {s : σ} (c : Option String) (hs : P s) :
    P (scanFrom q bound s c).2 := by
  induction bound generalizing s c with
  | zero => exact hs
  | succ bound ih =>
    have step := pages s q c hs
    rw [scanFrom]
    generalize CallStore.queryPage s q c = read at step
    obtain ⟨fault | page, s'⟩ := read
    · exact step
    · obtain ⟨records, _ | next⟩ := page
      · exact step
      · exact ih (some next) step

theorem readBatches_preserves (reads : ∀ s tenant ids, P s → P (CallStore.batch s tenant ids).2)
    (tenant : String) (batches : List (List String)) {s : σ} (hs : P s) :
    P (readBatches tenant batches s).2 := by
  induction batches generalizing s with
  | nil => exact hs
  | cons ids rest ih =>
    have step := reads s tenant ids hs
    rw [readBatches]
    generalize CallStore.batch s tenant ids = read at step
    obtain ⟨fault | found, s'⟩ := read
    · exact step
    · exact ih step

/-- A summary preserves what each batch read preserves once its records are read. -/
theorem Portal.summarize_preserves_read
    (batches : ∀ s tenant ids, P s → P (CallStore.batch s tenant ids).2) {p : Portal σ}
    {tenant : String} {window : Window}
    (scanned : P (readRecords p.store (window.query tenant)).2) (card : RateCard) :
    P (p.summarize card tenant window).2.store := by
  rw [summarize]
  generalize readRecords p.store (window.query tenant) = scan at scanned
  obtain ⟨fault | records, s⟩ := scan
  · exact scanned
  · have read : P (summaryOfRecords s card tenant window records).2 :=
      readBatches_preserves batches tenant _ scanned
    dsimp only
    generalize summaryOfRecords s card tenant window records = answer at read
    obtain ⟨fault | summary, s'⟩ := answer
    · exact read
    · exact read

/-- **A summary preserves** what each page read and each batch read preserves. -/
theorem Portal.summarize_preserves (pages : ∀ s q c, P s → P (CallStore.queryPage s q c).2)
    (batches : ∀ s tenant ids, P s → P (CallStore.batch s tenant ids).2) {p : Portal σ}
    (hp : P p.store) (card : RateCard) (tenant : String) (window : Window) :
    P (p.summarize card tenant window).2.store :=
  summarize_preserves_read batches (scanFrom_preserves pages _ _ none hp) card

end Preserved

/-! ## Logs -/

/-- **Logged store**: a store with what was read from it so far, the last read at the end. -/
structure Logged (σ : Type) where
  store : σ
  /-- What came of each page read. -/
  pages : List (Except StoreFault RecordPage)
  /-- The ids of each batch read. -/
  batches : List (List String)

/-- A store with nothing read from it. -/
def Logged.ofStore (s : σ) : Logged σ :=
  ⟨s, [], []⟩

instance : CallStore (Logged σ) where
  queryPage l q c :=
    let (outcome, s) := CallStore.queryPage l.store q c
    (outcome, { l with store := s, pages := l.pages ++ [outcome] })
  batch l tenant ids :=
    let (found, s) := CallStore.batch l.store tenant ids
    (found, { l with store := s, batches := l.batches ++ [ids] })
  held l := CallStore.held l.store

/-- **A log changes no read.** -/
theorem keepsReads_unlogged : KeepsReads (Logged.store (σ := σ)) where
  queryPage _ _ _ := rfl
  batch _ _ _ := rfl
  held _ := rfl

end CallMeter
