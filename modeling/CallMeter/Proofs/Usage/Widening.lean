import CallMeter.Proofs.Usage.WellFormed

/-!
# Wider windows

More days move the start of a window back and leave its end. The records of the shorter window
are then among those of the longer one, and all others start before each of them, whatever text
their starts are. So no figure of a summary gets smaller, and the last call of a use case that had
one stays.

## Main definitions

* `GainsEarlier`: some records, and before them others
* `Figures.Grows`, `Summary.Grows`: figures and summaries that show at least as much
* `Portal.Widens`: the answers about more days show at least as much

## Main results

* `GainsEarlier.figures`: figures grow with earlier records
* `GainsEarlier.summaryFrom`: so does the summary of records
* `gainsEarlier_inWindow`: what a longer window selects
* `widening_only_adds`: more days only add usage
-/

namespace CallMeter

open Pricing (RateCard PricedModel)

/-! ## Earlier records -/

/-- **Earlier records** come to some others, which start at a bound or after it. All of them are
fewer than a counter can count. -/
structure GainsEarlier (bound : String) (rs rs' : List CallRecord) : Prop where
  sub : rs.Sublist rs'
  few : rs'.length < UInt64.size
  late : ∀ r ∈ rs, ∃ start, r.startedAt = some start ∧ bound ≤ start
  early : ∀ r ∈ rs', r ∈ rs ∨ ∀ start, r.startedAt = some start → start < bound

namespace GainsEarlier

variable {bound : String} {rs rs' : List CallRecord}

theorem filter (h : GainsEarlier bound rs rs') (p : CallRecord → Bool) :
    GainsEarlier bound (rs.filter p) (rs'.filter p) where
  sub := h.sub.filter p
  few := (List.length_filter_le _ _).trans_lt h.few
  late r hr := h.late r (List.mem_filter.mp hr).1
  early r hr := by
    obtain ⟨hr, hp⟩ := List.mem_filter.mp hr
    exact (h.early r hr).imp_left fun old => List.mem_filter.mpr ⟨old, hp⟩

/-- A count does not get smaller. -/
theorem count_le (h : GainsEarlier bound rs rs') (p : CallRecord → Bool) :
    UInt64.ofNat (rs.countP p) ≤ UInt64.ofNat (rs'.countP p) := by
  have more : rs.countP p ≤ rs'.countP p := h.sub.countP_le
  have room : rs'.countP p < UInt64.size := List.countP_le_length.trans_lt h.few
  rw [UInt64.le_iff_toNat_le, UInt64.toNat_ofNat_of_lt' (more.trans_lt room),
    UInt64.toNat_ofNat_of_lt' room]
  exact more

/-- A sum does not get smaller, also where it stops at the largest counter. -/
theorem sum_le (h : GainsEarlier bound rs rs') (f : CallRecord → UInt64) :
    Counter.ofNat (rs.map fun r => (f r).toNat).sum ≤
      Counter.ofNat (rs'.map fun r => (f r).toNat).sum := by
  have more : (rs.map fun r => (f r).toNat).sum ≤ (rs'.map fun r => (f r).toNat).sum :=
    (h.sub.map _).sum_le_sum fun _ _ => Nat.zero_le _
  rw [UInt64.le_iff_toNat_le, Counter.toNat_ofNat, Counter.toNat_ofNat]
  omega

/-- **The last call stays**: all that came starts before the bound. -/
theorem lastCallAt_eq (h : GainsEarlier bound rs rs') (some : rs ≠ []) :
    (Tally.ofCalls rs').lastCallAt = (Tally.ofCalls rs).lastCallAt := by
  have shown : (Tally.ofCalls rs).lastCallAt ≠ none := by
    refine mt (Tally.lastCallAt_ofCalls_eq_none fun r hr => ?_).mp some
    obtain ⟨start, hstart, -⟩ := h.late r hr
    rw [hstart, Option.isSome_some]
  obtain ⟨last, hlast⟩ := Option.ne_none_iff_exists'.mp shown
  rw [hlast]
  obtain ⟨hmem, greatest⟩ := List.max?_eq_some_iff.mp hlast
  refine List.max?_eq_some_iff.mpr ⟨(h.sub.filterMap _).subset hmem, fun start hstart => ?_⟩
  obtain ⟨r, hr, hrs⟩ := List.mem_filterMap.mp hstart
  rcases h.early r hr with old | before
  · exact greatest start (List.mem_filterMap.mpr ⟨r, old, hrs⟩)
  · obtain ⟨r', hr', hlate⟩ := List.mem_filterMap.mp hmem
    obtain ⟨start', hstart', bounded⟩ := h.late r' hr'
    obtain rfl := Option.some.inj (hstart'.symm.trans hlate)
    exact (before start hrs).le.trans bounded

end GainsEarlier

/-! ## Figures that grow -/

theorem Tally.totalSeconds_mono {t t' : Tally} (h : t.durationMs ≤ t'.durationMs) :
    t.totalSeconds ≤ t'.totalSeconds := by
  rw [UInt64.le_iff_toNat_le] at *
  rw [totalSeconds, totalSeconds, UInt64.toNat_div, UInt64.toNat_div, Counter.toNat_add,
    Counter.toNat_add]
  exact Nat.div_le_div_right (by omega)

/-- **Figures grow**: none of them gets smaller, and the last call stays. -/
structure Figures.Grows (f f' : Figures) : Prop where
  calls : f.calls ≤ f'.calls
  endedCalls : f.endedCalls ≤ f'.endedCalls
  errorCalls : f.errorCalls ≤ f'.errorCalls
  totalSeconds : f.totalSeconds ≤ f'.totalSeconds
  billableMinutes : f.billableMinutes ≤ f'.billableMinutes
  inputTokens : f.inputTokens ≤ f'.inputTokens
  outputTokens : f.outputTokens ≤ f'.outputTokens
  lastCallAt : 0 < f.calls → f'.lastCallAt = f.lastCallAt

/-- **A summary grows**: it keeps its rows, and the figures of each of them and of all calls
grow. -/
structure Summary.Grows (s s' : Summary) : Prop where
  rows : ∀ row ∈ s.rows, ∃ row' ∈ s'.rows,
    row'.useCase = row.useCase ∧ row.figures.Grows row'.figures
  totals : s.totals.figures.Grows s'.totals.figures

namespace GainsEarlier

variable {bound : String} {rs rs' : List CallRecord}

/-- **Figures grow with earlier records.** -/
theorem figures (h : GainsEarlier bound rs rs') (card : RateCard)
    (model model' : Option PricedModel) :
    (Figures.ofTally (.ofCalls rs) card model).Grows (.ofTally (.ofCalls rs') card model') := by
  have calls : (Tally.ofCalls rs).calls ≤ (Tally.ofCalls rs').calls := by
    have all := h.count_le fun _ => true
    simp only [List.countP_true] at all
    exact all
  have duration := h.sum_le CallRecord.durationMs
  exact {
    calls := calls
    endedCalls := h.count_le CallRecord.ended
    errorCalls := h.count_le CallRecord.hasError
    totalSeconds := Tally.totalSeconds_mono duration
    billableMinutes := Pricing.billableMinutes_mono calls duration
    inputTokens := h.sum_le CallRecord.inputTokens
    outputTokens := h.sum_le CallRecord.outputTokens
    lastCallAt := by
      intro some
      refine h.lastCallAt_eq ?_
      rintro rfl
      exact UInt64.lt_irrefl 0 some }

/-- **The summary of records grows with earlier records.** -/
theorem summaryFrom {find : String → Option Deployment} (h : GainsEarlier bound rs rs')
    (filed : ∀ id d, find id = some d → d.useCase = id) (card : RateCard) (tenant : String)
    (w w' : Window) :
    (summaryFrom find card tenant w rs).Grows (summaryFrom find card tenant w' rs') where
  rows := by
    intro row hrow
    obtain ⟨some, e⟩ := (mem_rows_summaryFrom filed).mp hrow
    have calls : GainsEarlier bound (Usage.callsOf row.useCase rs)
        (Usage.callsOf row.useCase rs') := h.filter _
    have some' : Usage.callsOf row.useCase rs' ≠ [] := fun none =>
      some (List.sublist_nil.mp (none ▸ calls.sub))
    refine ⟨rowFrom find card row.useCase rs',
      (mem_rows_summaryFrom filed).mpr ⟨some', rfl⟩, rfl, ?_⟩
    rw [e]
    exact calls.figures card _ _
  totals := by
    rw [Summary.figures_totals_summaryFrom, Summary.figures_totals_summaryFrom]
    exact (h.filter _).figures card _ _

end GainsEarlier

/-! ## Longer windows -/

/-- **A longer window selects earlier records** besides those of a shorter one that ends with it. -/
theorem gainsEarlier_inWindow {dated : List DatedRecord} (sound : ∀ d ∈ dated, d.Sound)
    (few : dated.length < UInt64.size) {now : Time.Instant} {days days' : Nat} {w w' : Window}
    (hw : Window.endingAt now days = some w) (hw' : Window.endingAt now days' = some w')
    (start : w'.startIso ≤ w.startIso) (finish : w'.endIso = w.endIso) (tenant : String) :
    GainsEarlier w.startIso ((w.query tenant).inWindow dated)
      ((w'.query tenant).inWindow dated) where
  sub := by
    refine (List.monotone_filter_right dated fun d covered => ?_).map _
    obtain ⟨lower, upper⟩ := Window.covers_query_iff.mp covered
    exact Window.covers_query_iff.mpr ⟨start.trans lower, finish ▸ upper⟩
  few := (RecordQuery.length_inWindow_le _ dated).trans_lt few
  late r hr := by
    obtain ⟨text, htext, lower, -⟩ := (inWindow_of_mem sound hw hr).startedAt
    exact ⟨text, htext, lower⟩
  early r hr := by
    obtain ⟨d, hd, rfl⟩ := List.mem_map.mp hr
    obtain ⟨hd, covered'⟩ := List.mem_filter.mp hd
    by_cases covered : (w.query tenant).covers d.start = true
    · exact .inl (List.mem_map.mpr ⟨d, List.mem_filter.mpr ⟨hd, covered⟩, rfl⟩)
    · refine .inr fun text htext => ?_
      have shown := (sound d hd).startedAt (Window.not_blank_of_covers hw' covered')
      obtain rfl := Option.some.inj (shown.symm.trans htext)
      have upper : d.start ≤ w.endIso := finish ▸ (Window.covers_query_iff.mp covered').2
      rw [Window.covers_query_iff, not_and_or] at covered
      exact not_le.mp (covered.resolve_right (not_not.mpr upper))

/-! ## Answers -/

section Portal

variable {σ : Type} [CallStore σ] [HoldsDeployments σ]

open HoldsDeployments (deployments)

/-- **More days show at least as much**, and neither answer is a fault. -/
def Portal.Widens (p : Portal σ) (card : RateCard) (tenant : String) (days days' : Int)
    (now : Time.Instant) : Prop :=
  ∃ s s', p.answerAt card tenant days now = some (.ok s) ∧
    p.answerAt card tenant days' now = some (.ok s') ∧ s.Grows s'

/-- A store of dated records that can be read answers with those in the window. -/
theorem HoldsDated.answerAt_eq {p : Portal σ} {tenant : String} {dated : List DatedRecord}
    (h : HoldsDated p.store tenant dated) {days : Int} {now : Time.Instant} {w : Window}
    (hw : Window.endingAt now (clampDays days) = some w)
    (readable : ∃ records s, readRecords p.store (w.query tenant) = (.ok records, s))
    (card : RateCard) :
    p.answerAt card tenant days now = some (.ok (summaryFrom
      (fun id => (deployments p.store).find? tenant id) card tenant w
      ((w.query tenant).inWindow dated))) := by
  obtain ⟨records, s, read⟩ := readable
  obtain ⟨perm, same⟩ := h.read _ rfl (Window.startIso_ne_empty hw) records s read
  have answer := Portal.summarize_eq read card
  rw [same, summaryFrom_perm _ card tenant w perm] at answer
  rw [Portal.answerAt, p.summaryAt_of_window card tenant hw, Option.map_some, answer]

/-- **A store of dated records that can be read widens its answers.** -/
theorem HoldsDated.widens {p : Portal σ} {tenant : String} {dated : List DatedRecord}
    (h : HoldsDated p.store tenant dated)
    (readable : ∀ q : RecordQuery, q.tenant = tenant → q.startIso ≠ "" →
      ∃ records s, readRecords p.store q = (.ok records, s))
    {days days' : Int} (more : days ≤ days') {now : Time.Instant} (hnow : now.Proper)
    (hyear : now.InYears) (hstart : (now.minusDays (clampDays days')).InYears) (card : RateCard) :
    p.Widens card tenant days days' now := by
  obtain ⟨w, w', hw, hw', start, finish⟩ := Window.endingAt_widens hnow hyear hstart
    (clampDays_bounds days).1 (clampDays_mono more)
  have answer := h.answerAt_eq hw (readable _ rfl (Window.startIso_ne_empty hw)) card
  have answer' := h.answerAt_eq hw' (readable _ rfl (Window.startIso_ne_empty hw')) card
  refine ⟨_, _, answer, answer', ?_⟩
  exact (gainsEarlier_inWindow h.sound h.few hw hw' start finish tenant).summaryFrom
    (h.filed tenant) card tenant w w'

end Portal

/-- **More days only add usage.** Let the windows of some days and of more days up to now lie in the
years of four digits. The answer about the shorter window shows no use case that the other does
not, no figure of a use case or of all calls is smaller in the other, and a last call is the same
in both. This holds of a memory store after any writes, page reads and summaries, and of a table
after any writes, with items whose keys are distinct and not more of them than a counter can
count, however their starts are written. -/
theorem widening_only_adds (card : RateCard) (tenant : String) {days days' : Int}
    (more : days ≤ days') {now : Time.Instant} (hnow : now.Proper) (hyear : now.InYears)
    (hstart : (now.minusDays (clampDays days')).InYears) :
    (∀ (pageSize : UInt64) (requests : List Request),
      ((Portal.ofStore (MemoryStore.empty pageSize none)).run MemoryStore.seed requests).Widens
        card tenant days days' now) ∧
    ∀ (pageSize : Nat) (seeds : List Seed) (m : Metrics),
      (∀ item ∈ heldItems tenant seeds, item.KeysOnce) →
      (heldItems tenant seeds).length < UInt64.size →
        Portal.Widens ⟨TableStore.seeded pageSize seeds, m⟩ card tenant days days' now := by
  constructor
  · intro pageSize requests
    have filed : (Portal.ofStore (MemoryStore.empty pageSize none)).store.deployments.Filed :=
      Deployments.filed_nil
    have unmarked := MemoryStore.failOnPage_run (p := .ofStore (.empty pageSize none)) rfl requests
    refine (MemoryStore.holdsDated_memory (MemoryStore.filed_run filed requests) tenant).widens ?_
      more hnow hyear hstart card
    intro q _ _
    exact ⟨_, _, MemoryStore.readRecords_found unmarked q⟩
  · intro pageSize seeds m once few
    refine (TableStore.holdsDated_seeded pageSize once few).widens ?_ more hnow hyear hstart card
    intro q _ hs
    obtain ⟨records, read, -⟩ := TableStore.readRecords_seeded hs pageSize seeds
    exact ⟨records, _, read⟩

/-- Two calls of a use case in the last week, one of them in the last day with a start that is no
timestamp. -/
theorem widening_only_adds_of_two_calls :
    let call (start : String) : Json :=
      .object [("useCaseId", .string "booking"), ("startedAt", .string start)]
    let early : Seed := .item ⟨"acme", "a", call "2024-05-02T09"⟩
    let late : Seed := .item ⟨"acme", "b", call "2024-05-06 at dawn"⟩
    let p := (Portal.ofStore (MemoryStore.empty 1 none)).run MemoryStore.seed
      [.seed early, .seed late]
    let t : Portal TableStore := ⟨.seeded 9 [early, late], .none⟩
    let now : Time.Instant := ⟨1714978800, 0⟩
    p.Widens .default "acme" 1 7 now ∧ t.Widens .default "acme" 1 7 now := by
  intro call early late p t now
  have proper : now.Proper := ⟨by decide, fun h => absurd h (by decide)⟩
  have inYears : now.InYears := ⟨by decide, by decide⟩
  have startInYears : (now.minusDays (clampDays 7)).InYears := ⟨by decide, by decide⟩
  have more : (1 : Int) ≤ 7 := by decide
  obtain ⟨memory, table⟩ := widening_only_adds .default "acme" more proper inYears startInYears
  have once : ∀ item ∈ heldItems "acme" [early, late], item.KeysOnce := by
    intro item hitem
    rcases List.mem_pair.mp hitem with rfl | rfl
    · simp [Json.KeysOnce, call]
    · simp [Json.KeysOnce, call]
  exact ⟨memory 1 [.seed early, .seed late], table 9 [early, late] .none once (by decide)⟩

end CallMeter
