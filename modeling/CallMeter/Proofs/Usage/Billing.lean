import CallMeter.Proofs.Usage.Totals
import CallMeter.Proofs.Usage.WellFormed

/-!
# Billed minutes of rows and totals

Rows and totals bill the begun minutes of the milliseconds of their calls, added up exactly and
rounded once. So calls that are billed use case by use case cost at least as many minutes as all
of them together, and less than one minute more for each use case that has any duration.

## Main definitions

* `Pricing.begunMinutes`, `Pricing.Begins`: the minutes begun by a duration
* `summedMs`, `partsMs`: the milliseconds of calls, and of the use cases
* `Summary.BillsExactly`: a summary bills exact sums, and its rows little more than its totals

## Main results

* `begunMinutes_min_sum_le`, `sum_begunMinutes_le`: begun minutes of parts and of the whole
* `Summary.billsExactly_build`: every summary bills exactly
* `Figures.exists_not_followsSeconds`: the rounded seconds do not tell the minutes
-/

namespace CallMeter

open Pricing (RateCard PricedModel)

/-! ## Begun minutes -/

namespace Pricing

/-- **Begun minutes** of a duration in milliseconds. -/
def begunMinutes (ms : ℕ) : ℕ :=
  (ms + 59999) / 60000

/-- So many minutes of a duration are begun, and no further one. -/
def Begins (ms minutes : ℕ) : Prop :=
  60000 * ((minutes : ℤ) - 1) < ms ∧ ms ≤ 60000 * minutes

theorem begins_iff {ms minutes : ℕ} : Begins ms minutes ↔ minutes = begunMinutes ms := by
  unfold Begins begunMinutes
  omega

theorem toNat_billableMinutes_of_calls {calls durationMs : UInt64} (some : calls ≠ 0) :
    (billableMinutes calls durationMs).toNat = begunMinutes durationMs.toNat := by
  rw [toNat_billableMinutes, begunMinutes]
  by_cases none : durationMs = 0
  · rw [if_pos (.inr none), none]
    rfl
  · rw [if_neg (by tauto)]

/-- **The whole begins no more minutes** than its parts, also where durations stop at a bound. -/
theorem begunMinutes_min_sum_le (bound : ℕ) (parts : List ℕ) :
    begunMinutes (min parts.sum bound) ≤
      (parts.map fun ms => begunMinutes (min ms bound)).sum := by
  unfold begunMinutes
  induction parts with
  | nil => simp
  | cons ms parts ih =>
    rw [List.map_cons, List.sum_cons, List.sum_cons]
    omega

/-- **Each part begins less than a minute more**, and none if it has no duration. -/
theorem sum_begunMinutes_le (parts : List ℕ) :
    60000 * (parts.map begunMinutes).sum ≤ parts.sum + 59999 * parts.countP (0 < ·) := by
  induction parts with
  | nil => rfl
  | cons ms parts ih =>
    rw [List.map_cons, List.sum_cons, List.sum_cons, List.countP_cons]
    -- scaled by a minute, one part more costs its milliseconds and at most 59999 others
    unfold begunMinutes at *
    simp only [decide_eq_true_eq]
    split <;> omega

/-- **A rule for bills** is an exact ceiling: zero without calls or without a duration, and the one
number of begun minutes otherwise. -/
structure ExactCeiling (bill : UInt64 → UInt64 → UInt64) : Prop where
  zero (calls durationMs : UInt64) : bill calls durationMs = 0 ↔ calls = 0 ∨ durationMs = 0
  ceiling (calls durationMs : UInt64) (minutes : ℕ) : ¬ (calls = 0 ∨ durationMs = 0) →
    (Begins durationMs.toNat minutes ↔ minutes = (bill calls durationMs).toNat)

theorem exactCeiling_billableMinutes : ExactCeiling billableMinutes where
  zero := billableMinutes_eq_zero_iff
  ceiling calls durationMs minutes some := by
    rw [begins_iff, toNat_billableMinutes_of_calls (fun none => some (.inl none))]

end Pricing

open Pricing (Begins begunMinutes)

/-! ## Rows and totals -/

/-- The milliseconds of calls, added up exactly. -/
def summedMs (calls : List CallRecord) : ℕ :=
  (calls.map fun r => r.durationMs.toNat).sum

/-- The milliseconds of the use cases. -/
def partsMs (rs : List CallRecord) : List ℕ :=
  (Usage.ofRecords rs).useCases.map fun id => summedMs (Usage.callsOf id rs)

/-- The milliseconds of the use cases add up to those of the records that count. -/
theorem summedMs_counted (rs : List CallRecord) :
    summedMs (Usage.counted rs) = (partsMs rs).sum :=
  Usage.sum_counted rs _

/-- **The bill of calls**: the begun minutes of their milliseconds. -/
theorem Figures.toNat_billableMinutes_ofCalls {calls : List CallRecord}
    (few : calls.length < UInt64.size) (card : RateCard) (model : Option PricedModel) :
    (Figures.ofTally (.ofCalls calls) card model).billableMinutes.toNat =
      begunMinutes (min (summedMs calls) Counter.limit) := by
  show (Pricing.billableMinutes (Tally.ofCalls calls).calls
    (Counter.ofNat (summedMs calls))).toNat = _
  by_cases none : calls = []
  · subst none
    rfl
  · have some : (Tally.ofCalls calls).calls ≠ 0 := fun e =>
      none ((Tally.calls_ofCalls_eq_zero few).mp e)
    rw [Pricing.toNat_billableMinutes_of_calls some, Counter.toNat_ofNat]

namespace Summary

/-- The rows whose calls have any duration. -/
def timedRows (rs : List CallRecord) (s : Summary) : ℕ :=
  s.rows.countP fun row => 0 < summedMs (Usage.callsOf row.useCase rs)

/-- **A summary bills the milliseconds of its records exactly.** -/
structure BillsExactly (rs : List CallRecord) (s : Summary) : Prop where
  /-- The totals bill the exact milliseconds of the records that count. -/
  totals : Begins (min (summedMs (Usage.counted rs)) Counter.limit)
    s.totals.figures.billableMinutes.toNat
  /-- A row bills the exact milliseconds of its own records. -/
  rows : ∀ row ∈ s.rows, Begins (min (summedMs (Usage.callsOf row.useCase rs)) Counter.limit)
    row.figures.billableMinutes.toNat
  /-- The rows bill no less than the totals, also where their sum stops at the largest counter. -/
  totals_le : s.totals.figures.billableMinutes.toNat ≤ s.sumOver Figures.billableMinutes
  /-- Each row with any duration bills less than a minute more. -/
  rows_le : summedMs (Usage.counted rs) < 2 ^ 64 → 0 < s.timedRows rs →
    s.sumOver Figures.billableMinutes ≤
      s.totals.figures.billableMinutes.toNat + s.timedRows rs - 1
  /-- Without such rows nothing is billed. -/
  untimed : s.timedRows rs = 0 →
    s.totals.figures.billableMinutes = 0 ∧ ∀ row ∈ s.rows, row.figures.billableMinutes = 0

section Build

variable {rs : List CallRecord} {tenant : String} {window : Window}
  {profiles : List (String × Profile)} {card : RateCard}

theorem toNat_billableMinutes_totals (few : rs.length < UInt64.size) :
    (build tenant window (.ofRecords rs) profiles card).totals.figures.billableMinutes.toNat =
      begunMinutes (min (summedMs (Usage.counted rs)) Counter.limit) := by
  have le : (Usage.counted rs).length ≤ rs.length := List.length_filter_le _ _
  show (Figures.ofTally (Usage.ofRecords rs).total card card.costliest?).billableMinutes.toNat = _
  rw [Usage.total_ofRecords, Figures.toNat_billableMinutes_ofCalls (le.trans_lt few)]

theorem toNat_billableMinutes_row (few : rs.length < UInt64.size) {row : UseCaseRow}
    (h : row ∈ (build tenant window (.ofRecords rs) profiles card).rows) :
    row.figures.billableMinutes.toNat =
      begunMinutes (min (summedMs (Usage.callsOf row.useCase rs)) Counter.limit) := by
  obtain ⟨model, hrow⟩ := figures_of_mem_rows h
  have le : (Usage.callsOf row.useCase rs).length ≤ rs.length := List.length_filter_le _ _
  rw [hrow, Figures.toNat_billableMinutes_ofCalls (le.trans_lt few)]

theorem sumOver_billableMinutes (few : rs.length < UInt64.size) :
    (build tenant window (.ofRecords rs) profiles card).sumOver Figures.billableMinutes =
      ((partsMs rs).map fun ms => begunMinutes (min ms Counter.limit)).sum := by
  rw [sumOver_build _ (fun t => Pricing.billableMinutes t.calls t.durationMs) fun _ _ _ => rfl,
    Usage.sumOver_ofRecords, partsMs, List.map_map]
  refine congrArg List.sum (List.map_congr_left fun id _ => ?_)
  have le : (Usage.callsOf id rs).length ≤ rs.length := List.length_filter_le _ _
  rw [Function.comp_apply, ← Figures.toNat_billableMinutes_ofCalls (le.trans_lt few) card none]
  rfl

theorem timedRows_build :
    (build tenant window (.ofRecords rs) profiles card).timedRows rs =
      (partsMs rs).countP (0 < ·) := by
  have rows := (rows_perm tenant window (.ofRecords rs) profiles card).countP_eq
    fun id => 0 < summedMs (Usage.callsOf id rs)
  rw [List.countP_map] at rows
  rw [partsMs, List.countP_map]
  exact rows

/-- **Every summary bills exactly.** -/
theorem billsExactly_build (rs : List CallRecord) (few : rs.length < UInt64.size)
    (tenant : String) (window : Window) (profiles : List (String × Profile)) (card : RateCard) :
    (build tenant window (.ofRecords rs) profiles card).BillsExactly rs where
  totals := Pricing.begins_iff.mpr (toNat_billableMinutes_totals few)
  rows row h := Pricing.begins_iff.mpr (toNat_billableMinutes_row few h)
  totals_le := by
    rw [toNat_billableMinutes_totals few, sumOver_billableMinutes few, summedMs_counted]
    exact Pricing.begunMinutes_min_sum_le _ _
  rows_le := by
    intro fits timed
    have whole : min (summedMs (Usage.counted rs)) Counter.limit = summedMs (Usage.counted rs) :=
      Nat.min_eq_left (Nat.le_pred_of_lt fits)
    have parts : ((partsMs rs).map fun ms => begunMinutes (min ms Counter.limit)) =
        (partsMs rs).map begunMinutes := by
      refine List.map_congr_left fun ms h => congrArg _ (Nat.min_eq_left ?_)
      have part : ms ≤ summedMs (Usage.counted rs) := by
        rw [summedMs_counted]
        exact List.le_sum_of_mem h
      exact part.trans (Nat.le_pred_of_lt fits)
    have most := Pricing.sum_begunMinutes_le (partsMs rs)
    rw [timedRows_build] at timed ⊢
    rw [toNat_billableMinutes_totals few, sumOver_billableMinutes few, whole, parts]
    rw [← summedMs_counted] at most
    have ends := (Pricing.begins_iff.mpr (rfl : begunMinutes (summedMs (Usage.counted rs)) = _)).2
    omega
  untimed := by
    intro none
    have rows (row : UseCaseRow)
        (h : row ∈ (build tenant window (.ofRecords rs) profiles card).rows) :
        summedMs (Usage.callsOf row.useCase rs) = 0 := by
      simpa using List.countP_eq_zero.mp none row h
    rw [timedRows_build, List.countP_eq_zero] at none
    have all : summedMs (Usage.counted rs) = 0 := by
      rw [summedMs_counted]
      exact List.sum_eq_zero fun ms h => by simpa using none ms h
    simp only [← UInt64.toNat_inj, UInt64.toNat_zero]
    refine ⟨?_, fun row h => ?_⟩
    · rw [toNat_billableMinutes_totals few, all]
      rfl
    · rw [toNat_billableMinutes_row few h, rows row h]
      rfl

end Build

end Summary

/-! ## Seconds do not tell minutes -/

/-- The minutes of figures are what a rule makes of their calls and their rounded seconds. -/
def Figures.FollowsSeconds (rule : UInt64 → UInt64 → UInt64) (f : Figures) : Prop :=
  f.billableMinutes = rule f.calls f.totalSeconds

/-- A call that starts at ten. -/
def callUntil (finish : String) : CallRecord where
  tenant := none
  useCase := some "booking"
  startedAt := some "2024-05-06T10:00:00Z"
  endedAt := some finish
  lastUpdatedAt := none
  ended := true
  hasError := false
  turns := 0
  latencyMs := 0
  inputTokens := 0
  outputTokens := 0

/-- **Rounded seconds do not tell minutes**: a call of a minute shows as many of them as one that
begins a second minute. -/
theorem Figures.exists_not_followsSeconds (rule : UInt64 → UInt64 → UInt64) (card : RateCard)
    (model : Option PricedModel) :
    ∃ calls, ¬ (Figures.ofTally (.ofCalls calls) card model).FollowsSeconds rule := by
  by_contra! all
  -- both calls show 60 seconds, but 60400 milliseconds begin a second minute
  have one := all [callUntil "2024-05-06T10:01:00Z"]
  have two := all [callUntil "2024-05-06T10:01:00.400Z"]
  have seconds : (Tally.ofCalls [callUntil "2024-05-06T10:01:00Z"]).totalSeconds =
      (Tally.ofCalls [callUntil "2024-05-06T10:01:00.400Z"]).totalSeconds := by decide
  have minutes :
      Pricing.billableMinutes 1 (Tally.ofCalls [callUntil "2024-05-06T10:01:00Z"]).durationMs ≠
        Pricing.billableMinutes 1
          (Tally.ofCalls [callUntil "2024-05-06T10:01:00.400Z"]).durationMs := by decide
  exact minutes (one.trans ((congrArg (rule 1) seconds).trans two.symm))

namespace Summary

/-- **Minutes are billed exactly.** They are ceilings of exact milliseconds in rows and totals, rows
bill less than a minute more each, and no rule for the rounded seconds could do so. A counter can
count more records than a list in memory can have. -/
theorem minutes_billed_exactly (rs : List CallRecord) (few : rs.length < 2 ^ 64) (tenant : String)
    (window : Window) (profiles : List (String × Profile)) (card : RateCard) :
    Pricing.ExactCeiling Pricing.billableMinutes ∧
      (build tenant window (.ofRecords rs) profiles card).BillsExactly rs ∧
      ∀ rule model, ∃ calls, ¬ (Figures.ofTally (.ofCalls calls) card model).FollowsSeconds rule :=
  ⟨Pricing.exactCeiling_billableMinutes, billsExactly_build rs few tenant window profiles card,
    fun rule model => Figures.exists_not_followsSeconds rule card model⟩

/-- Two use cases with a call of 60.4 seconds each, beside calls without an end and without a use
case. -/
theorem minutes_billed_exactly_of_short_calls :
    let rs := [callUntil "2024-05-06T10:01:00.400Z",
      { callUntil "2024-05-06T10:01:00.400Z" with useCase := some "support" },
      { callUntil "" with useCase := some "sales" },
      { callUntil "2024-05-06T11:00:00Z" with useCase := none }]
    let s := build "acme" ⟨7, "2024-05-01", "2024-05-08"⟩ (.ofRecords rs) [] .default
    rs.length < 2 ^ 64 ∧ summedMs (Usage.counted rs) = 120800 ∧ s.timedRows rs = 2 ∧
      3 ≤ s.sumOver Figures.billableMinutes ∧ s.sumOver Figures.billableMinutes ≤ 4 := by
  intro rs s
  have few : rs.length < 2 ^ 64 := by decide
  have billed : s.BillsExactly rs := (minutes_billed_exactly rs few _ _ _ _).2.1
  have ms : summedMs (Usage.counted rs) = 120800 := by decide
  have timed : s.timedRows rs = 2 := by
    rw [timedRows_build]
    decide
  have totals : s.totals.figures.billableMinutes.toNat = 3 := by
    have := Pricing.begins_iff.mp billed.totals
    rw [ms] at this
    exact this
  have least := billed.totals_le
  have most := billed.rows_le (by rw [ms]; decide) (by rw [timed]; decide)
  rw [timed] at most
  exact ⟨few, ms, timed, by omega, by omega⟩

end Summary

end CallMeter
