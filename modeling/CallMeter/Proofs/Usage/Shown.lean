import CallMeter.Proofs.Decimal.Doubles
import CallMeter.Proofs.Double.Whole
import CallMeter.Usage.Summary
import Mathlib.Algebra.Order.Floor.Div

/-!
# What a summary shows

The figures of a tally are rounded seconds, begun minutes and means. They are described here by the
exact numbers that they stand for, and a description leaves no choice: it fits one row only.

## Main definitions

* `MeanOf`: a rounded mean of calls
* `Figures.Shows`: the figures of a tally, priced with a model
* `UseCaseRow.Shows`, `Totals.Shows`: the row of a tally, and the totals

## Main results

* `meanOf_average`: means are computed as they are described
* `UseCaseRow.shows_ofTally`, `Totals.shows_ofTally`: so are rows and totals
* `UseCaseRow.Shows.unique`: a tally has one row
-/

namespace CallMeter

open Pricing (RateCard PricedModel)

/-! ## Means -/

/-- **A rounded mean of calls**, zero without any. A sum and a number of calls are divided as
doubles, and a half goes up. -/
structure MeanOf (sum : ℚ) (calls mean : UInt64) : Prop where
  noCalls : calls = 0 → mean = 0
  toNat_eq : calls ≠ 0 → mean.toNat =
    min ⌊Double.nearest (sum / Double.nearest calls.toNat) + 1 / 2⌋₊ (2 ^ 64 - 1)

theorem MeanOf.unique {sum : ℚ} {calls mean mean' : UInt64} (h : MeanOf sum calls mean)
    (h' : MeanOf sum calls mean') : mean = mean' := by
  by_cases none : calls = 0
  · rw [h.noCalls none, h'.noCalls none]
  · exact UInt64.toNat_inj.mp ((h.toNat_eq none).trans (h'.toNat_eq none).symm)

/-- **Means are computed** as they are described. -/
theorem meanOf_average {sum : Float} (h : Double.Unsigned sum) (calls : UInt64) :
    MeanOf (Double.value sum) calls (Tally.average sum calls) where
  noCalls none := by rw [none]; rfl
  toNat_eq some := by
    obtain ⟨unsigned, quotient⟩ := Double.unsigned_div_toFloat h some
    rw [Tally.average, if_neg (by simpa using some), Counter.toNat_ofNat,
      Decimal.nearest_eq_floor unsigned, quotient]
    rfl

/-! ## Minutes -/

/-- **Seconds in minutes**, with two decimals: the hundredths of a minute are rounded to a whole
number, a half going up, and each operation on doubles rounds its result. -/
def MinutesOf (seconds : UInt64) (minutes : Float) : Prop :=
  ∃ hundredths : ℕ,
    hundredths =
      ⌊Double.nearest (Double.nearest (Double.nearest seconds.toNat / 60) * 100) + 1 / 2⌋₊ ∧
    Double.Unsigned minutes ∧
    Double.value minutes = Double.nearest (Double.nearest hundredths / 100)

theorem parts_hundred :
    Double.parts 100.0 = .finite .positive (100 * 2 ^ 46) (-46) (by decide) := rfl

theorem value_hundred : Double.value 100.0 = 100 := by
  rw [Double.value_of_finite parts_hundred]
  norm_num

/-- Hundredths of a minute are far below the largest double. -/
theorem value_hundredths (seconds : UInt64) :
    Double.Unsigned (seconds.toFloat / 60.0 * 100.0) ∧
      Double.value (seconds.toFloat / 60.0 * 100.0) =
        Double.nearest (Double.nearest (Double.nearest seconds.toNat / 60) * 100) ∧
      Double.value (seconds.toFloat / 60.0 * 100.0) ≤ 2 ^ (71 : ℤ) := by
  have parts : Double.parts 60.0 = .finite .positive (60 * 2 ^ 47) (-47) (by decide) := rfl
  have sixty : Double.value 60.0 = 60 := by
    rw [Double.value_of_finite parts]
    norm_num
  obtain ⟨unsigned, number, most⟩ := Double.bounds_toFloat seconds
  have nonneg := Double.value_nonneg unsigned
  obtain ⟨unsigned', quotient⟩ := Double.unsigned_div unsigned (.finite parts)
    (by rw [sixty]; norm_num)
  rw [sixty, number] at quotient
  rw [number] at nonneg
  have fewer : Double.nearest (Double.nearest seconds.toNat / 60) ≤ 2 ^ (64 : ℤ) :=
    Double.nearest_le_zpow (by norm_num) (by positivity) (by linarith)
  have product := Double.isNearest_mul unsigned' (.finite parts_hundred)
  rw [quotient, value_hundred] at product
  obtain ⟨unsigned'', exact, high⟩ := product.value_of_le_zpow (k := 71) (by norm_num) (by norm_num)
    (mul_nonneg (Double.nearest_nonneg (by positivity)) (by norm_num))
    (by norm_num at fewer ⊢; linarith)
  exact ⟨unsigned'', exact, exact ▸ high⟩

/-- **Minutes are computed** as they are described. -/
theorem minutesOf_minutesOfSeconds (seconds : UInt64) :
    MinutesOf seconds (minutesOfSeconds seconds) := by
  obtain ⟨unsigned, exact, high⟩ := value_hundredths seconds
  have floor := Decimal.nearest_eq_floor unsigned
  have fewer : ((Decimal.nearest (seconds.toFloat / 60.0 * 100.0) : ℕ) : ℚ) ≤ 2 ^ (72 : ℤ) := by
    have nonneg := Double.value_nonneg unsigned
    rw [floor]
    refine (Nat.floor_le (by positivity)).trans ?_
    norm_num at high ⊢
    linarith
  obtain ⟨unsigned', whole, -⟩ := (Double.isNearest_ofDecimal _).value_of_le_zpow (by norm_num)
    (by norm_num) (Nat.cast_nonneg _) fewer
  obtain ⟨unsigned'', quotient⟩ := Double.unsigned_div unsigned' (.finite parts_hundred)
    (by rw [value_hundred]; norm_num)
  rw [whole, value_hundred] at quotient
  exact ⟨_, by rw [floor, exact], unsigned'', quotient⟩

/-! ## Figures -/

/-- **Figures show a tally**, priced with a model. -/
structure Figures.Shows (t : Tally) (card : RateCard) (model : Option PricedModel) (f : Figures) :
    Prop where
  calls : f.calls = t.calls
  endedCalls : f.endedCalls = t.endedCalls
  errorCalls : f.errorCalls = t.errorCalls
  totalSeconds : f.totalSeconds.toNat = min (t.durationMs.toNat + 500) (2 ^ 64 - 1) / 1000
  averageSeconds : MeanOf (Double.nearest (Double.nearest t.durationMs.toNat / 1000)) t.calls
    f.averageSeconds
  averageTurns : MeanOf (Double.nearest t.turns.toNat) t.calls f.averageTurns
  averageLatencyMs : MeanOf (Double.nearest t.latencyMs.toNat) t.calls f.averageLatencyMs
  lastCallAt : f.lastCallAt = t.lastCallAt
  billableMinutes : f.billableMinutes.toNat =
    if t.calls = 0 then 0 else t.durationMs.toNat ⌈/⌉ 60000
  inputTokens : f.inputTokens = t.inputTokens
  outputTokens : f.outputTokens = t.outputTokens
  estimate : f.estimate = Pricing.estimate
    ⟨t.calls, t.durationMs, t.turns, t.inputTokens, t.outputTokens⟩ card model

section Figures

variable {t : Tally} {card : RateCard} {model : Option PricedModel}

theorem Figures.Shows.unique {f f' : Figures} (h : f.Shows t card model)
    (h' : f'.Shows t card model) : f = f' := by
  have seconds := UInt64.toNat_inj.mp (h.totalSeconds.trans h'.totalSeconds.symm)
  have minutes := UInt64.toNat_inj.mp (h.billableMinutes.trans h'.billableMinutes.symm)
  have durations := h.averageSeconds.unique h'.averageSeconds
  have turns := h.averageTurns.unique h'.averageTurns
  have latencies := h.averageLatencyMs.unique h'.averageLatencyMs
  obtain ⟨calls, ended, errors, -, -, -, -, last, -, input, output, estimate⟩ := h
  obtain ⟨calls', ended', errors', -, -, -, -, last', -, input', output', estimate'⟩ := h'
  cases f
  cases f'
  simp_all only

theorem toNat_totalSeconds (t : Tally) :
    t.totalSeconds.toNat = min (t.durationMs.toNat + 500) (2 ^ 64 - 1) / 1000 := by
  rw [Tally.totalSeconds, UInt64.toNat_div, Counter.toNat_add]
  rfl

/-- The mean duration in seconds: milliseconds are turned into seconds as doubles first. -/
theorem meanOf_averageSeconds (t : Tally) :
    MeanOf (Double.nearest (Double.nearest t.durationMs.toNat / 1000)) t.calls
      t.averageSeconds := by
  obtain ⟨unsigned, seconds⟩ := Double.unsigned_div (Double.unsigned_toFloat t.durationMs)
    Double.unsigned_thousand (by rw [Double.value_thousand]; norm_num)
  rw [Double.value_toFloat, Double.value_thousand] at seconds
  rw [← seconds]
  exact meanOf_average unsigned t.calls

theorem toNat_billableMinutes_eq_ceilDiv (calls durationMs : UInt64) :
    (Pricing.billableMinutes calls durationMs).toNat =
      if calls = 0 then 0 else durationMs.toNat ⌈/⌉ 60000 := by
  rw [Pricing.toNat_billableMinutes, Nat.ceilDiv_eq_add_pred_div]
  by_cases none : calls = 0
  · rw [if_pos (.inl none), if_pos none]
  · by_cases short : durationMs = 0
    · rw [if_pos (.inr short), if_neg none, short]
      rfl
    · rw [if_neg (not_or.mpr ⟨none, short⟩), if_neg none]
      rfl

/-- **Figures are computed** as they are described. -/
theorem Figures.shows_ofTally (t : Tally) (card : RateCard) (model : Option PricedModel) :
    (ofTally t card model).Shows t card model where
  calls := rfl
  endedCalls := rfl
  errorCalls := rfl
  totalSeconds := toNat_totalSeconds t
  averageSeconds := meanOf_averageSeconds t
  averageTurns := Double.value_toFloat t.turns ▸ meanOf_average (Double.unsigned_toFloat _) _
  averageLatencyMs :=
    Double.value_toFloat t.latencyMs ▸ meanOf_average (Double.unsigned_toFloat _) _
  lastCallAt := rfl
  billableMinutes := toNat_billableMinutes_eq_ceilDiv _ _
  inputTokens := rfl
  outputTokens := rfl
  estimate := rfl

end Figures

/-! ## Rows and totals -/

/-- **A row shows the tally of a use case**. Its name and its hint are those of the profile, or the
id and none if there is no profile, and the model is the one that the hint names. -/
structure UseCaseRow.Shows (profiles : List (String × Profile)) (card : RateCard) (id : String)
    (t : Tally) (row : UseCaseRow) : Prop where
  useCase : row.useCase = id
  known : ∀ profile, Entries.get? id profiles = some profile →
    row.name = profile.displayName ∧ row.modelHint = profile.modelHint
  unknown : Entries.get? id profiles = none → row.name = id ∧ row.modelHint = none
  figures : row.figures.Shows t card (card.findModel? row.modelHint)

/-- **Totals show the tally of all calls**, priced with the costliest model. -/
structure Totals.Shows (card : RateCard) (t : Tally) (totals : Totals) : Prop where
  minutes : MinutesOf totals.figures.totalSeconds totals.minutes
  figures : totals.figures.Shows t card card.costliest?

variable {profiles : List (String × Profile)} {card : RateCard} {id : String} {t : Tally}

/-- **A tally has one row.** -/
theorem UseCaseRow.Shows.unique {row row' : UseCaseRow} (h : row.Shows profiles card id t)
    (h' : row'.Shows profiles card id t) : row = row' := by
  have named : row.name = row'.name ∧ row.modelHint = row'.modelHint := by
    cases found : Entries.get? id profiles with
    | none =>
      obtain ⟨⟨name, hint⟩, name', hint'⟩ := And.intro (h.unknown found) (h'.unknown found)
      exact ⟨name.trans name'.symm, hint.trans hint'.symm⟩
    | some profile =>
      obtain ⟨⟨name, hint⟩, name', hint'⟩ :=
        And.intro (h.known profile found) (h'.known profile found)
      exact ⟨name.trans name'.symm, hint.trans hint'.symm⟩
  obtain ⟨id, name, hint, f⟩ := row
  obtain ⟨id', name', hint', f'⟩ := row'
  obtain ⟨rfl, rfl⟩ := named
  obtain rfl := h.useCase.trans h'.useCase.symm
  obtain rfl := h.figures.unique h'.figures
  rfl

/-- **Rows are computed** as they are described. -/
theorem UseCaseRow.shows_ofTally (profiles : List (String × Profile)) (card : RateCard)
    (id : String) (t : Tally) :
    (ofTally card ((Entries.get? id profiles).getD (.unknown id)) id t).Shows profiles card id
      t where
  useCase := rfl
  known profile found := by rw [found]; exact ⟨rfl, rfl⟩
  unknown missing := by rw [missing]; exact ⟨rfl, rfl⟩
  figures := Figures.shows_ofTally t card _

theorem Totals.shows_ofTally (card : RateCard) (t : Tally) : (ofTally card t).Shows card t where
  minutes := minutesOf_minutesOfSeconds _
  figures := Figures.shows_ofTally t card card.costliest?

end CallMeter
