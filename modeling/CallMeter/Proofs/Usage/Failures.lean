import CallMeter.Proofs.Store.Failures
import CallMeter.Proofs.Store.Seeding
import CallMeter.Proofs.Usage.Summaries

/-!
# Summaries and a page read that fails

A memory store can be told to fail one of its page reads. Over the whole life of such a store,
with writes, page reads and summaries in any order, just this page read fails. A summary fails
if the page read is one of its own: it answers nothing then, has read no deployment and has left
the data alone. Any other summary is that of the store with no page read to fail.

## Main definitions

* `Request`, `Portal.run`: the life of a portal
* `MemoryStore.SameData`: two stores with the same items and deployments
* `Logged.TellsFailure`: a log in which one page read failed as marked
* `Portal.FailsAsMarked`: a summary fails as the page read that is marked says

## Main results

* `run_unlogged`: a log changes nothing in the life of a portal
* `TellsFailure.run`: the log of a run shows one page read that failed at most
* `summarize_of_failure`, `summarize_of_no_failure`: the two outcomes of a summary
* `failsAsMarked`: every summary fails as marked
* `failure_hits_one_read`: the life of a store with a page read that fails
-/

namespace CallMeter

open Pricing (RateCard)

variable {σ : Type} [CallStore σ]

/-! ## The life of a portal -/

/-- **Request** to a portal, or a write to its store. A summary of the last days is that of their
window. -/
inductive Request
  | seed (op : Seed)
  | page (q : RecordQuery) (cursor : Option String)
  | summary (card : RateCard) (tenant : String) (window : Window)

namespace Portal

/-- A portal after a request, given what a seed does to its store. -/
def serve (seed : σ → Seed → σ) (p : Portal σ) : Request → Portal σ
  | .seed op => { p with store := seed p.store op }
  | .page q c => { p with store := (CallStore.queryPage p.store q c).2 }
  | .summary card tenant window => (p.summarize card tenant window).2

/-- **A portal after some requests**. -/
def run (seed : σ → Seed → σ) (p : Portal σ) (requests : List Request) : Portal σ :=
  requests.foldl (serve seed) p

variable {seed : σ → Seed → σ} {P : σ → Prop}

/-- **A run preserves** what each write and each read preserves. -/
theorem run_preserves (seeds : ∀ s op, P s → P (seed s op))
    (pages : ∀ s q c, P s → P (CallStore.queryPage s q c).2)
    (batches : ∀ s tenant ids, P s → P (CallStore.batch s tenant ids).2) {p : Portal σ}
    (hp : P p.store) (requests : List Request) : P (p.run seed requests).store := by
  induction requests generalizing p with
  | nil => exact hp
  | cons request requests ih =>
    apply ih
    cases request with
    | seed op => exact seeds _ op hp
    | page q c => exact pages _ q c hp
    | summary card tenant window => exact summarize_preserves pages batches hp card tenant window

end Portal

/-- A logged store after one seed. -/
def Logged.seed (l : Logged MemoryStore) (op : Seed) : Logged MemoryStore :=
  { l with store := l.store.seed op }

/-- **A log changes nothing** in the life of a portal. -/
theorem Portal.run_unlogged (p : Portal (Logged MemoryStore)) (requests : List Request) :
    (p.run Logged.seed requests).map Logged.store =
      (p.map Logged.store).run MemoryStore.seed requests := by
  induction requests generalizing p with
  | nil => rfl
  | cons request requests ih =>
    refine (ih _).trans (congrArg (fun p => Portal.run MemoryStore.seed p requests) ?_)
    cases request with
    | seed op => rfl
    | page q c => rfl
    | summary card tenant window =>
      exact (congrArg Prod.snd (keepsReads_unlogged.summarize p card tenant window)).symm

/-! ## The life of a memory store -/

namespace MemoryStore

/-- Batch reads neither move the mark nor count as page reads. -/
theorem marks_batch (s : MemoryStore) (tenant : String) (ids : List String) :
    (CallStore.batch s tenant ids).2.failOnPage = s.failOnPage ∧
      (CallStore.batch s tenant ids).2.pagesServed = s.pagesServed := by
  show (s.batch tenant ids).2.failOnPage = _ ∧ (s.batch tenant ids).2.pagesServed = _
  unfold batch
  split <;> exact ⟨rfl, rfl⟩

/-- Writes neither move the mark nor count as page reads. -/
theorem marks_seed (s : MemoryStore) (op : Seed) :
    (s.seed op).failOnPage = s.failOnPage ∧ (s.seed op).pagesServed = s.pagesServed := by
  cases op with
  | item e =>
    show (s.add e.tenant e.item).failOnPage = _ ∧ (s.add e.tenant e.item).pagesServed = _
    unfold add
    split <;> exact ⟨rfl, rfl⟩
  | deployment tenant d => exact ⟨rfl, rfl⟩

/-- Nothing in the life of a store moves the mark. -/
theorem failOnPage_run {p : Portal MemoryStore} {mark : Option Nat}
    (marked : p.store.failOnPage = mark) (requests : List Request) :
    (p.run MemoryStore.seed requests).store.failOnPage = mark := by
  refine Portal.run_preserves (P := fun s : MemoryStore => s.failOnPage = mark) ?_ ?_ ?_ marked
    requests
  · intro s op h
    exact (marks_seed s op).1.trans h
  · intro s q c h
    exact h
  · intro s tenant ids h
    exact (marks_batch s tenant ids).1.trans h

/-- Seeds file the deployments of a store, and reads leave them alone. -/
theorem filed_run {p : Portal MemoryStore} (filed : p.store.deployments.Filed)
    (requests : List Request) : (p.run MemoryStore.seed requests).store.deployments.Filed := by
  refine Portal.run_preserves (P := fun s : MemoryStore => s.deployments.Filed) ?_ ?_ ?_ filed
    requests
  · intro s op h
    cases op with
    | item e => exact (deployments_add s e.tenant e.item).symm ▸ h
    | deployment tenant d => exact h.add tenant d
  · intro s q c h
    exact h
  · intro s tenant ids h
    show (s.batch tenant ids).2.deployments.Filed
    unfold batch
    split <;> exact h

/-- **The same data**: the items and the deployments of two stores. -/
structure SameData (s t : MemoryStore) : Prop where
  items : s.items = t.items
  deployments : s.deployments = t.deployments

section SameData

variable {s t : MemoryStore}

theorem SameData.symm (h : SameData s t) : SameData t s :=
  ⟨h.items.symm, h.deployments.symm⟩

theorem SameData.queryPage (h : SameData s t) (q : RecordQuery) (c : Option String) :
    SameData (CallStore.queryPage s q c).2 t :=
  ⟨h.items, h.deployments⟩

theorem SameData.batch (h : SameData s t) (tenant : String) (ids : List String) :
    SameData (CallStore.batch s tenant ids).2 t := by
  show SameData (MemoryStore.batch s tenant ids).2 t
  unfold MemoryStore.batch
  split <;> exact ⟨h.items, h.deployments⟩

theorem SameData.seed (h : SameData s t) (op : Seed) : SameData (s.seed op) (t.seed op) := by
  cases op with
  | item e =>
    refine ⟨?_, (deployments_add s e.tenant e.item).trans
      (h.deployments.trans (deployments_add t e.tenant e.item).symm)⟩
    show (s.add e.tenant e.item).items = (t.add e.tenant e.item).items
    unfold add
    by_cases room : s.items.length + 1 < itemLimit
    · rw [dif_pos room, dif_pos (h.items ▸ room)]
      exact congrArg (· ++ [(e.tenant, e.item)]) h.items
    · rw [dif_neg room, dif_neg (h.items ▸ room)]
      exact h.items
  | deployment tenant d => exact ⟨h.items, congrArg (Deployments.add tenant d) h.deployments⟩

/-- **Two lives with the same writes** hold the same data, whatever is read in them. -/
theorem SameData.run {p p' : Portal MemoryStore} (h : SameData p.store p'.store)
    (requests : List Request) :
    SameData (p.run MemoryStore.seed requests).store (p'.run MemoryStore.seed requests).store := by
  induction requests generalizing p p' with
  | nil => exact h
  | cons request requests ih =>
    apply ih
    cases request with
    | seed op => exact h.seed op
    | page q c => exact ((h.queryPage q c).symm.queryPage q c).symm
    | summary card tenant window =>
      have one {p : Portal MemoryStore} {t : MemoryStore} (h : SameData p.store t) :
          SameData (p.summarize card tenant window).2.store t :=
        Portal.summarize_preserves (P := fun s => SameData s t) (fun _ q c h => h.queryPage q c)
          (fun _ tenant ids h => h.batch tenant ids) h card tenant window
      exact (one (one h).symm).symm

/-- **The same data gives the same answers** where no page read fails. -/
theorem SameData.summarize_eq {p p' : Portal MemoryStore} (h : SameData p.store p'.store)
    (hf : p.store.failOnPage = none) (hf' : p'.store.failOnPage = none) (card : RateCard)
    (tenant : String) (window : Window) :
    (p.summarize card tenant window).1 = (p'.summarize card tenant window).1 := by
  have answer := Portal.summarize_eq (readRecords_found hf (window.query tenant)) card
  have answer' := Portal.summarize_eq (readRecords_found hf' (window.query tenant)) card
  rw [answer, answer', h.items]
  show Except.ok
      (summaryFrom (fun id => p.store.deployments.find? tenant id) card tenant window _) =
    .ok (summaryFrom (fun id => p'.store.deployments.find? tenant id) card tenant window _)
  rw [h.deployments]

end SameData

end MemoryStore

/-! ## The log of a store with a page read that fails -/

/-- **A log in which one page read failed**: it shows every page read of a store that is marked
to fail page read `n`, and just this one failed as marked, if it was made. -/
structure Logged.TellsFailure (n : Nat) (l : Logged MemoryStore) : Prop where
  marked : l.store.failOnPage = some n
  complete : l.pages.length = l.store.pagesServed
  simulated_iff : ∀ i m, l.pages[i]? = some (.error (.simulated m)) ↔
    i < l.pages.length ∧ i + 1 = n ∧ m = n

namespace Logged.TellsFailure

variable {n : Nat} {l : Logged MemoryStore}

/-- A page read is noted, and it failed exactly if its number is the marked one. -/
theorem queryPage (h : l.TellsFailure n) (q : RecordQuery) (c : Option String) :
    (CallStore.queryPage l q c).2.TellsFailure n where
  marked := h.marked
  complete := by
    show (l.pages ++ [_]).length = l.store.pagesServed + 1
    rw [List.length_append, h.complete, List.length_singleton]
  simulated_iff i m := by
    show (l.pages ++ [(CallStore.queryPage l.store q c).1])[i]? = _ ↔
      i < (l.pages ++ [_]).length ∧ _
    rw [List.length_append, List.length_singleton]
    rcases Nat.lt_trichotomy i l.pages.length with before | rfl | beyond
    · rw [List.getElem?_append_left before, h.simulated_iff]
      omega
    · rw [List.getElem?_concat_length, Option.some_inj, MemoryStore.queryPage_simulated_iff,
        h.marked, h.complete, Option.some_inj]
      omega
    · rw [List.getElem?_eq_none (by rw [List.length_append, List.length_singleton]; omega)]
      simp only [reduceCtorEq, false_iff]
      omega

theorem batch (h : l.TellsFailure n) (tenant : String) (ids : List String) :
    (CallStore.batch l tenant ids).2.TellsFailure n := by
  obtain ⟨marked, served⟩ := MemoryStore.marks_batch l.store tenant ids
  exact ⟨marked.trans h.marked, h.complete.trans served.symm, h.simulated_iff⟩

theorem seed (h : l.TellsFailure n) (op : Seed) : (l.seed op).TellsFailure n := by
  obtain ⟨marked, served⟩ := MemoryStore.marks_seed l.store op
  exact ⟨marked.trans h.marked, h.complete.trans served.symm, h.simulated_iff⟩

/-- **A run goes on with the log.** -/
theorem run {p : Portal (Logged MemoryStore)} (h : p.store.TellsFailure n)
    (requests : List Request) : (p.run Logged.seed requests).store.TellsFailure n :=
  Portal.run_preserves (fun _ op h => h.seed op) (fun _ q c h => h.queryPage q c)
    (fun _ tenant ids h => h.batch tenant ids) h requests

end Logged.TellsFailure

/-! ## A summary and the page read that fails -/

namespace Portal

open MemoryStore (failingAt)

section Memory

variable {p : Portal MemoryStore} {tenant : String} {window : Window} {n : Nat}

/-- **A summary that meets the failure** answers nothing. The store has counted the page reads up
to it and is otherwise as before: no deployment was read. -/
theorem summarize_of_failure (hf : p.store.failOnPage = some n) (after : p.store.pagesServed < n)
    (within : n ≤ p.store.pagesServed + p.store.pagesFor (window.query tenant))
    (card : RateCard) :
    p.summarize card tenant window = (.error (.store (.simulated n)),
      ⟨{ p.store with pagesServed := n }, p.metrics.finished "store_unavailable"⟩) := by
  have read := MemoryStore.readRecords_of_failure hf after within
  have served : p.store.served (n - p.store.pagesServed) = { p.store with pagesServed := n } := by
    rw [MemoryStore.served, Nat.add_sub_cancel' after.le]
  rw [summarize, read, served]
  rfl

/-- **A summary that does not meet the failure** is that of the store with no page read to fail,
which still has the mark afterwards. -/
theorem summarize_of_no_failure
    (spared : ¬ p.store.MeetsFailure (p.store.pagesFor (window.query tenant)))
    (card : RateCard) :
    p.summarize card tenant window =
      ((p.map (failingAt none)).summarize card tenant window).map id
        (map (failingAt p.store.failOnPage)) := by
  refine (MemoryStore.keepsBatches_failingAt p.store.failOnPage).summarize
    (p := p.map (failingAt none)) ?_ card
  show readRecords p.store _ = (readRecords (p.store.failingAt none) _).map id _
  rw [MemoryStore.readRecords_of_no_failure spared, MemoryStore.readRecords_of_no_failure
    (MemoryStore.not_meetsFailure_failingAt_none p.store _)]
  rfl

/-- A summary that does not meet the failure answers, after the page reads that it needs. -/
theorem summarize_needs
    (spared : ¬ p.store.MeetsFailure (p.store.pagesFor (window.query tenant)))
    (card : RateCard) :
    ∃ summary after, p.summarize card tenant window = (.ok summary, after) ∧
      after.store.pagesServed =
        p.store.pagesServed + p.store.pagesFor (window.query tenant) := by
  have read := MemoryStore.readRecords_of_no_failure spared
  refine ⟨_, _, Prod.ext (summarize_eq read card) rfl, ?_⟩
  refine summarize_preserves_read (P := fun s : MemoryStore => s.pagesServed =
    p.store.pagesServed + p.store.pagesFor (window.query tenant)) ?_ (by rw [read]; rfl) card
  intro s tenant ids h
  exact (MemoryStore.marks_batch s tenant ids).2.trans h

end Memory

/-- A summary that meets the failure makes no batch read. -/
theorem batches_of_failure {p : Portal (Logged MemoryStore)} {n : Nat} {tenant : String}
    {window : Window} (marked : p.store.store.failOnPage = some n)
    (after : p.store.store.pagesServed < n)
    (within : n ≤ p.store.store.pagesServed + p.store.store.pagesFor (window.query tenant))
    (card : RateCard) : (p.summarize card tenant window).2.store.batches = p.store.batches := by
  have scanned : (readRecords p.store (window.query tenant)).2.batches = p.store.batches :=
    scanFrom_preserves (P := fun l : Logged MemoryStore => l.batches = p.store.batches)
      (fun _ _ _ h => h) _ _ none rfl
  have read := keepsReads_unlogged.readRecords p.store (window.query tenant)
  rw [MemoryStore.readRecords_of_failure marked after within] at read
  rw [summarize]
  generalize readRecords p.store (window.query tenant) = scan at scanned read
  obtain ⟨fault | records, l⟩ := scan
  · exact scanned
  · cases congrArg Prod.fst read

/-- **A summary fails as marked**, over a store that is marked to fail page read `n`. On the same
store with no page read to fail, it answers `summary` after `pages` page reads and leaves `after`.
So it does on the marked store, unless one of these page reads is the marked one. -/
structure FailsAsMarked (p : Portal (Logged MemoryStore)) (n : Nat) (card : RateCard)
    (tenant : String) (window : Window) (pages : Nat) (summary : Summary)
    (after : Portal MemoryStore) : Prop where
  unmarked : (p.map fun l => l.store.failingAt none).summarize card tenant window =
    (.ok summary, after)
  needs : after.store.pagesServed = p.store.store.pagesServed + pages
  needs_one : 1 ≤ pages
  fault_iff : (∃ fault, (p.summarize card tenant window).1 = .error (.store fault)) ↔
    p.store.store.pagesServed < n ∧ n ≤ p.store.store.pagesServed + pages
  /-- No data is answered, no deployment was read, and the data is as before. -/
  failed : p.store.store.pagesServed < n → n ≤ p.store.store.pagesServed + pages →
    (p.summarize card tenant window).1 = .error (.store (.simulated n)) ∧
    (p.summarize card tenant window).2.store.batches = p.store.batches ∧
    (p.summarize card tenant window).2.map Logged.store =
      ⟨{ p.store.store with pagesServed := n }, p.metrics.finished "store_unavailable"⟩
  spared : ¬ (p.store.store.pagesServed < n ∧ n ≤ p.store.store.pagesServed + pages) →
    (p.summarize card tenant window).1 = .ok summary ∧
    (p.summarize card tenant window).2.map Logged.store = after.map (failingAt (some n))

/-- **Every summary fails as marked.** -/
theorem failsAsMarked (p : Portal (Logged MemoryStore)) {n : Nat}
    (marked : p.store.store.failOnPage = some n) (card : RateCard) (tenant : String)
    (window : Window) :
    ∃ summary after, p.FailsAsMarked n card tenant window
      (p.store.store.pagesFor (window.query tenant)) summary after := by
  have log := keepsReads_unlogged.summarize p card tenant window
  have answer : (p.summarize card tenant window).1 =
      ((p.map Logged.store).summarize card tenant window).1 := congrArg Prod.fst log.symm
  have left : (p.summarize card tenant window).2.map Logged.store =
      ((p.map Logged.store).summarize card tenant window).2 := congrArg Prod.snd log.symm
  have calm := MemoryStore.not_meetsFailure_failingAt_none p.store.store
    (p.store.store.pagesFor (window.query tenant))
  obtain ⟨summary, after, unmarked, needs⟩ :=
    summarize_needs (p := ⟨p.store.store.failingAt none, p.metrics⟩) calm card
  have met : p.store.store.MeetsFailure (p.store.store.pagesFor (window.query tenant)) ↔ _ :=
    MemoryStore.meetsFailure_iff marked
  have hit (h : p.store.store.MeetsFailure (p.store.store.pagesFor (window.query tenant))) :=
    summarize_of_failure (p := p.map Logged.store) marked (met.mp h).1 (met.mp h).2 card
  have miss (h : ¬ p.store.store.MeetsFailure (p.store.store.pagesFor (window.query tenant))) :
      (p.map Logged.store).summarize card tenant window =
        (.ok summary, after.map (failingAt (some n))) := by
    refine (summarize_of_no_failure (p := p.map Logged.store) h card).trans ?_
    rw [← marked]
    exact congrArg (Prod.map id (map (failingAt p.store.store.failOnPage))) unmarked
  refine ⟨summary, after, unmarked, needs, Nat.le_max_left 1 _, ?_, ?_, ?_⟩
  · rw [answer, ← met]
    constructor
    · rintro ⟨fault, failed⟩
      by_contra spared
      rw [miss spared] at failed
      cases failed
    · intro h
      exact ⟨_, congrArg Prod.fst (hit h)⟩
  · intro first last
    rw [answer, left, hit (met.mpr ⟨first, last⟩)]
    exact ⟨rfl, batches_of_failure marked first last card, rfl⟩
  · intro spared
    rw [answer, left, miss (mt met.mp spared)]
    exact ⟨rfl, rfl⟩

/-- **No summary fails again** once the marked page read was made. -/
theorem summarize_of_served (p : Portal (Logged MemoryStore)) {n : Nat}
    (marked : p.store.store.failOnPage = some n) (served : n ≤ p.store.store.pagesServed)
    (card : RateCard) (tenant : String) (window : Window) :
    ∃ summary, (p.summarize card tenant window).1 = .ok summary ∧
      ((p.map fun l => l.store.failingAt none).summarize card tenant window).1 = .ok summary := by
  obtain ⟨summary, after, h⟩ := p.failsAsMarked marked card tenant window
  refine ⟨summary, (h.spared ?_).1, congrArg Prod.fst h.unmarked⟩
  rintro ⟨first, -⟩
  exact absurd first (Nat.not_lt.mpr served)

theorem served_run {p : Portal (Logged MemoryStore)} {n : Nat}
    (served : n ≤ p.store.store.pagesServed) (requests : List Request) :
    n ≤ (p.run Logged.seed requests).store.store.pagesServed := by
  refine run_preserves (P := fun l : Logged MemoryStore => n ≤ l.store.pagesServed) ?_ ?_ ?_ served
    requests
  · intro l op h
    exact h.trans_eq (MemoryStore.marks_seed l.store op).2.symm
  · intro l q c h
    exact h.trans (Nat.le_succ _)
  · intro l tenant ids h
    exact h.trans_eq (MemoryStore.marks_batch l.store tenant ids).2.symm

end Portal

/-! ## The life of a store with a page read that fails -/

/-- **A failure hits one page read** and leaves the data untouched. Take a memory store with pages
of any size whose page read `n` is marked to fail, after any writes, page reads and summaries. A
log of its reads shows the marked page read as the only one that failed so, if it was made. A
summary fails exactly if the marked page read is one of those that it makes; otherwise it answers
what the store without the mark does, and what one that never had it does after the same requests.
A summary that failed has read no deployment and left the data alone, and no summary after it
fails, whatever happens between them. -/
theorem failure_hits_one_read (pageSize : UInt64) (n : Nat) (requests : List Request) :
    let bare (mark : Option Nat) :=
      (Portal.ofStore (MemoryStore.empty pageSize mark)).run MemoryStore.seed requests
    let p := (Portal.ofStore (Logged.ofStore (MemoryStore.empty pageSize (some n)))).run
      Logged.seed requests
    p.map Logged.store = bare (some n) ∧
      p.store.TellsFailure n ∧
      (∀ card tenant window, ∃ pages summary after,
        p.FailsAsMarked n card tenant window pages summary after ∧
        ((bare none).summarize card tenant window).1 = .ok summary) ∧
      ∀ card tenant window, (∃ fault, (p.summarize card tenant window).1 = .error fault) →
        ∀ later card' tenant' window',
          let p' := (p.summarize card tenant window).2.run Logged.seed later
          ∃ summary, (p'.summarize card' tenant' window').1 = .ok summary ∧
            ((p'.map fun l => l.store.failingAt none).summarize card' tenant' window').1 =
              .ok summary := by
  intro bare p
  have unread : (Logged.ofStore (MemoryStore.empty pageSize (some n))).TellsFailure n := by
    refine ⟨rfl, rfl, fun i m => ?_⟩
    simp [Logged.ofStore]
  have tells : p.store.TellsFailure n := unread.run requests
  have unlogged : p.map Logged.store = bare (some n) := Portal.run_unlogged _ requests
  refine ⟨unlogged, tells, ?_, ?_⟩
  · intro card tenant window
    obtain ⟨summary, after, h⟩ := p.failsAsMarked tells.marked card tenant window
    refine ⟨_, summary, after, h, ?_⟩
    -- the store that never had a mark holds the same data
    have empty : MemoryStore.SameData (Portal.ofStore (MemoryStore.empty pageSize none)).store
        (Portal.ofStore (MemoryStore.empty pageSize (some n))).store := ⟨rfl, rfl⟩
    have data : MemoryStore.SameData (bare none).store (bare (some n)).store := empty.run requests
    rw [← unlogged] at data
    have same : MemoryStore.SameData (bare none).store
        (p.map fun l => l.store.failingAt none).store := ⟨data.items, data.deployments⟩
    have unmarked : (bare none).store.failOnPage = none := MemoryStore.failOnPage_run rfl requests
    rw [same.summarize_eq unmarked rfl card tenant window, h.unmarked]
  · rintro card tenant window ⟨fault, hfault⟩ later card' tenant' window' p'
    obtain ⟨summary, after, h⟩ := p.failsAsMarked tells.marked card tenant window
    by_cases met : p.store.store.pagesServed < n ∧ n ≤ p.store.store.pagesServed +
        p.store.store.pagesFor (window.query tenant)
    · have left := (h.failed met.1 met.2).2.2
      have served : n ≤ (p.summarize card tenant window).2.store.store.pagesServed :=
        (congrArg (fun q : Portal MemoryStore => q.store.pagesServed) left).ge
      have tells' : p'.store.TellsFailure n :=
        (tells.run [.summary card tenant window]).run later
      exact p'.summarize_of_served tells'.marked (Portal.served_run served later) card' tenant'
        window'
    · rw [(h.spared met).1] at hfault
      cases hfault

/-- Two calls on pages of one, of which a page read has shown the first. The second page read of
the store fails, and so does the summary that makes it; a summary of another window answers. -/
theorem failure_hits_one_read_of_two_calls :
    let call (start : String) := Json.object [("startedAt", .string start)]
    let p := (Portal.ofStore (Logged.ofStore (MemoryStore.empty 1 (some 2)))).run Logged.seed
      [.seed (.item ⟨"acme", "a", call "2024-05-02T09"⟩),
        .seed (.item ⟨"acme", "b", call "2024-05-03T10"⟩),
        .page ⟨"acme", "2024-05-01", "2024-05-08"⟩ none]
    let failed := p.summarize .default "acme" ⟨7, "2024-05-01", "2024-05-08"⟩
    failed.1 = .error (.store (.simulated 2)) ∧ failed.2.store.batches = [] ∧
      ∃ summary, (failed.2.summarize .default "acme" ⟨1, "2024-05-07", "2024-05-08"⟩).1 =
        .ok summary := by
  intro call p failed
  obtain ⟨-, -, summaries, later⟩ := failure_hits_one_read 1 2
    [.seed (.item ⟨"acme", "a", call "2024-05-02T09"⟩),
      .seed (.item ⟨"acme", "b", call "2024-05-03T10"⟩),
      .page ⟨"acme", "2024-05-01", "2024-05-08"⟩ none]
  obtain ⟨pages, summary, after, h, -⟩ := summaries .default "acme" ⟨7, "2024-05-01", "2024-05-08"⟩
  have one : p.store.store.pagesServed = 1 := rfl
  have next : 2 ≤ p.store.store.pagesServed + pages := by
    rw [one]
    exact Nat.add_le_add_left h.needs_one 1
  obtain ⟨fault, unread, -⟩ := h.failed (one.trans_lt (by decide)) next
  obtain ⟨other, answered, -⟩ := later .default "acme" ⟨7, "2024-05-01", "2024-05-08"⟩
    ⟨_, fault⟩ [] .default "acme" ⟨1, "2024-05-07", "2024-05-08"⟩
  exact ⟨fault, unread, other, answered⟩

end CallMeter
