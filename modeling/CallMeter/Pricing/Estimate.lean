import CallMeter.Pricing.RateCard
import CallMeter.Tally

/-!
# Cost estimates

Usage is billed by the minute, every begun minute of the summed duration counting in full. The
rate of a minute adds the fixed rates, the mean turns at the rates per turn and the mean tokens
at the rates of a model, and takes the margin on top. Minutes at this rate are the estimate.

## Main definitions

* `billableMinutes`: the minutes billed for a duration
* `Metered`: the figures that an estimate needs
* `Estimate`, `estimate`: the rate, the cost and what they are made of

## Main results

* `toNat_billableMinutes`: billed minutes as the ceiling of the duration
* `billableMinutes_eq_zero_iff`, `billableMinutes_mono`: when none are billed, and that more usage
  is not billed as less
-/

namespace CallMeter.Pricing

/-- **Billable minutes**: begun minutes of the duration, none without calls. -/
def billableMinutes (calls durationMs : UInt64) : UInt64 :=
  if calls == 0 || durationMs == 0 then 0
  else UInt64.ofNat ((durationMs.toNat + 59999) / 60000)

theorem toNat_billableMinutes (calls durationMs : UInt64) :
    (billableMinutes calls durationMs).toNat =
      if calls = 0 ∨ durationMs = 0 then 0 else (durationMs.toNat + 59999) / 60000 := by
  have h := durationMs.toNat_lt
  by_cases hc : calls = 0
  · simp [billableMinutes, hc]
  · by_cases hd : durationMs = 0
    · simp [billableMinutes, hd]
    · simp [billableMinutes, hc, hd]
      omega

theorem billableMinutes_eq_zero_iff (calls durationMs : UInt64) :
    billableMinutes calls durationMs = 0 ↔ calls = 0 ∨ durationMs = 0 := by
  rw [← UInt64.toNat_inj, toNat_billableMinutes, UInt64.toNat_zero]
  by_cases none : calls = 0 ∨ durationMs = 0
  · rw [if_pos none]
    exact iff_of_true rfl none
  · have begun : 0 < durationMs.toNat :=
      Nat.pos_of_ne_zero fun e => none (.inr (UInt64.toNat_inj.mp e))
    rw [if_neg none]
    exact iff_of_false (by omega) none

theorem billableMinutes_mono {calls calls' durationMs durationMs' : UInt64}
    (hc : calls ≤ calls') (hd : durationMs ≤ durationMs') :
    billableMinutes calls durationMs ≤ billableMinutes calls' durationMs' := by
  rw [UInt64.le_iff_toNat_le] at *
  rw [toNat_billableMinutes, toNat_billableMinutes]
  by_cases none : calls = 0 ∨ durationMs = 0
  · rw [if_pos none]
    exact Nat.zero_le _
  · have some : ¬ (calls' = 0 ∨ durationMs' = 0) := by
      rw [← UInt64.toNat_inj, ← UInt64.toNat_inj, UInt64.toNat_zero] at *
      omega
    rw [if_neg none, if_neg some]
    omega

/-- **Metered usage**: the figures that an estimate needs. -/
structure Metered where
  calls : UInt64
  durationMs : UInt64
  turns : UInt64
  inputTokens : UInt64
  outputTokens : UInt64
  deriving DecidableEq

/-- The metered figures of a tally. -/
def Metered.ofTally (t : Tally) : Metered :=
  ⟨t.calls, t.durationMs, t.turns, t.inputTokens, t.outputTokens⟩

/-- A sum spread over the billed minutes. -/
def perMinute (total minutes : UInt64) : Float :=
  if minutes == 0 then 0.0 else total.toFloat / minutes.toFloat

/-- **Estimate**: the rate and the cost, where they are finite, and their components. -/
structure Estimate where
  ratePerMinute : Option Float
  cost : Option Float
  margin : Float
  connectPerMinute : Float
  infraPerMinute : Float
  lexPerTurn : Float
  lambdaPerTurn : Float
  turnsPerMinute : Float
  inputTokensPerMinute : Float
  outputTokensPerMinute : Float
  llmCostPerMinute : Float
  variableCostPerMinute : Float
  /-- The key of the model whose rates are used. -/
  model : Option String
  deriving DecidableEq

/-- A number that is finite. -/
def finiteOnly (x : Float) : Option Float :=
  if x.isFinite then some x else none

/-- The cost of a minute's tokens, nothing without a model. -/
def llmCost (inputPerMinute outputPerMinute : Float) : Option PricedModel → Float
  | some m =>
    inputPerMinute / 1000.0 * m.rates.input + outputPerMinute / 1000.0 * m.rates.output
  | none => 0.0

/-- **The estimate** for metered usage, with the token rates of `model`. -/
def estimate (usage : Metered) (card : RateCard) (model : Option PricedModel) : Estimate :=
  let minutes := billableMinutes usage.calls usage.durationMs
  let turns := perMinute usage.turns minutes
  let input := perMinute usage.inputTokens minutes
  let output := perMinute usage.outputTokens minutes
  let llm := llmCost input output model
  let variableCost := card.connectPerMinute + card.infraPerMinute +
    turns * (card.lexPerTurn + card.lambdaPerTurn) + llm
  let rate := variableCost * (1.0 + card.margin)
  let cost := if 0 < minutes then rate * minutes.toFloat else 0.0
  { ratePerMinute := finiteOnly rate
    cost := finiteOnly cost
    margin := card.margin
    connectPerMinute := card.connectPerMinute
    infraPerMinute := card.infraPerMinute
    lexPerTurn := card.lexPerTurn
    lambdaPerTurn := card.lambdaPerTurn
    turnsPerMinute := turns
    inputTokensPerMinute := input
    outputTokensPerMinute := output
    llmCostPerMinute := llm
    variableCostPerMinute := variableCost
    model := model.map PricedModel.key }

end CallMeter.Pricing
