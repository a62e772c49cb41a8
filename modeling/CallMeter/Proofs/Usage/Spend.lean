import CallMeter.Proofs.Pricing.TokenCost
import CallMeter.Proofs.Usage.Totals

/-!
# The spend of rows and totals

The totals are priced with the model of the highest combined rate. They bound the spend of a row
if that model is the dearer one for input and for output both; a model that is dearer for one of
them alone may make a row cost more than all calls together.

## Main definitions

* `Figures.llmSpend`: what the tokens of all billed minutes cost

## Main results

* `Summary.llmSpend_row_le_total`: a row whose model has no higher rate than that of the totals
  spends no more than the totals, up to rounding
-/

namespace CallMeter

open Pricing (RateCard PricedModel ModelRates)
open Double

/-- **The LLM spend** of figures: the token cost of a minute, times the billed minutes. -/
def Figures.llmSpend (f : Figures) : ℚ :=
  value f.estimate.llmCostPerMinute * f.billableMinutes.toNat

/-! ## A row beside all calls -/

namespace Usage

variable {rs : List CallRecord} {id : String} {t : Tally}

/-- A sum over a use case is not above that over all calls. -/
theorem toNat_le_total_of_sum {f : Tally → UInt64} {g : CallRecord → Nat}
    (sum : ∀ l, f (.ofCalls l) = Counter.ofNat (l.map g).sum)
    (h : (id, t) ∈ (ofRecords rs).byUseCase) :
    (f t).toNat ≤ (f (ofRecords rs).total).toNat := by
  have part : (f t).toNat ≤ (ofRecords rs).sumOver f :=
    List.le_sum_of_mem (List.mem_map.mpr ⟨(id, t), h, rfl⟩)
  obtain ⟨-, rfl⟩ := mem_byUseCase_ofRecords.mp h
  rw [toNat_total_of_sum sum]
  refine le_min part ?_
  rw [sum, Counter.toNat_ofNat]
  exact min_le_right _ _

/-- Nor is a count. -/
theorem toNat_le_total_of_count {f : Tally → UInt64} {p : CallRecord → Bool}
    (count : ∀ l, f (.ofCalls l) = UInt64.ofNat (l.countP p)) (few : rs.length < UInt64.size)
    (h : (id, t) ∈ (ofRecords rs).byUseCase) : (f t).toNat ≤ (f (ofRecords rs).total).toNat := by
  rw [toNat_total_of_count count few]
  exact List.le_sum_of_mem (List.mem_map.mpr ⟨(id, t), h, rfl⟩)

/-- More minutes are billed for all calls than for those of a use case. -/
theorem billableMinutes_le_total (few : rs.length < UInt64.size)
    (h : (id, t) ∈ (ofRecords rs).byUseCase) :
    Pricing.billableMinutes t.calls t.durationMs ≤
      Pricing.billableMinutes (ofRecords rs).total.calls (ofRecords rs).total.durationMs := by
  apply Pricing.billableMinutes_mono <;> rw [UInt64.le_iff_toNat_le]
  · exact toNat_le_total_of_count (p := fun _ => true)
      (fun l => by rw [List.countP_true]; rfl) few h
  · exact toNat_le_total_of_sum (fun _ => rfl) h

end Usage

/-! ## Spend -/

/-- **The costliest model covers a hint**: the model that the hint names has no higher rate for
input and none for output. -/
def Pricing.RateCard.Covers (card : RateCard) (hint : Option String) : Prop :=
  ∀ m, card.findModel? hint = some m → ∃ c, card.costliest? = some c ∧
    m.rates.input ≤ c.rates.input ∧ m.rates.output ≤ c.rates.output

theorem Pricing.ModelRates.cost_mono {r r' : ModelRates} (hr : r.Unsigned) (hr' : r'.Unsigned)
    (input : r.input ≤ r'.input) (output : r.output ≤ r'.output) {i i' o o' : ℕ} (hi : i ≤ i')
    (ho : o ≤ o') : r.cost i o ≤ r'.cost i' o' := by
  have dearer := (le_iff_value_le hr.input hr'.input).mp input
  have dearer' := (le_iff_value_le hr.output hr'.output).mp output
  have more {n n' : ℕ} (h : n ≤ n') : (n : ℚ) / 1000 ≤ n' / 1000 :=
    div_le_div_of_nonneg_right (Nat.cast_le.mpr h) (by norm_num)
  have part (n : ℕ) : (0 : ℚ) ≤ n / 1000 := div_nonneg (Nat.cast_nonneg n) (by norm_num)
  rw [ModelRates.cost, ModelRates.cost]
  exact add_le_add (mul_le_mul (more hi) dearer (value_nonneg hr.input) (part i'))
    (mul_le_mul (more ho) dearer' (value_nonneg hr.output) (part o'))

namespace Figures

variable {t : Tally} {card : RateCard}

theorem llmSpend_eq_zero {model : Option PricedModel}
    (h : (Pricing.billableMinutes t.calls t.durationMs).toNat = 0) :
    (ofTally t card model).llmSpend = 0 := by
  rw [llmSpend, show (ofTally t card model).billableMinutes.toNat = 0 from h, Nat.cast_zero,
    mul_zero]

theorem llmSpend_of_no_model : (ofTally t card none).llmSpend = 0 := by
  have free : value (ofTally t card none).estimate.llmCostPerMinute = 0 := value_of_zero parts_zero
  rw [llmSpend, free, zero_mul]

/-- **The spend is near to the exact cost of the tokens**: the minutes they are spread over come
back as a factor. -/
theorem near_llmSpend {m : PricedModel} (hm : m.rates.Unsigned)
    (pos : 0 < (Pricing.billableMinutes t.calls t.durationMs).toNat)
    (finite : (ofTally t card (some m)).estimate.llmCostPerMinute.isFinite = true) :
    Near 5 (5 * underflow * 2 ^ 53) (m.rates.cost t.inputTokens.toNat t.outputTokens.toNat)
      (ofTally t card (some m)).llmSpend := by
  have few := Pricing.billableMinutes_lt t.calls t.durationMs
  have minutes : (0 : ℚ) < (Pricing.billableMinutes t.calls t.durationMs).toNat :=
    Nat.cast_pos.mpr pos
  have near := (Pricing.near_llmCost hm pos few finite).2.mul_right minutes.le
  rw [div_mul_cancel₀ _ minutes.ne'] at near
  refine near.mono ?_
  have most : ((Pricing.billableMinutes t.calls t.durationMs).toNat : ℚ) ≤ 2 ^ 53 := by
    exact_mod_cast few.le
  exact mul_le_mul_of_nonneg_left most (by linarith [underflow_pos])

theorem llmSpend_nonneg {model : Option PricedModel}
    (rates : ∀ m, model = some m → m.rates.Unsigned)
    (finite : (ofTally t card model).estimate.llmCostPerMinute.isFinite = true) :
    0 ≤ (ofTally t card model).llmSpend := by
  rcases Nat.eq_zero_or_pos (Pricing.billableMinutes t.calls t.durationMs).toNat with none | pos
  · exact (llmSpend_eq_zero none).ge
  · cases model with
    | none => exact llmSpend_of_no_model.ge
    | some m =>
      have few := Pricing.billableMinutes_lt t.calls t.durationMs
      have unsigned := (Pricing.near_llmCost (rates m rfl) pos few finite).1
      exact mul_nonneg (value_nonneg unsigned) (Nat.cast_nonneg _)

/-- **More tokens at rates that are no lower** cost no less, up to rounding. -/
theorem llmSpend_le {t' : Tally} {m c : PricedModel} (hm : m.rates.Unsigned)
    (hc : c.rates.Unsigned) (input : m.rates.input ≤ c.rates.input)
    (output : m.rates.output ≤ c.rates.output)
    (inputTokens : t.inputTokens.toNat ≤ t'.inputTokens.toNat)
    (outputTokens : t.outputTokens.toNat ≤ t'.outputTokens.toNat)
    (pos : 0 < (Pricing.billableMinutes t.calls t.durationMs).toNat)
    (pos' : 0 < (Pricing.billableMinutes t'.calls t'.durationMs).toNat)
    (finite : (ofTally t card (some m)).estimate.llmCostPerMinute.isFinite = true)
    (finite' : (ofTally t' card (some c)).estimate.llmCostPerMinute.isFinite = true) :
    (ofTally t card (some m)).llmSpend ≤
      (ofTally t' card (some c)).llmSpend * (1 + 1 / 2 ^ 49) + 2 ^ (-1000 : ℤ) := by
  have near := near_llmSpend hm pos finite
  have near' := near_llmSpend hc pos' finite'
  have cheaper := ModelRates.cost_mono hm hc input output inputTokens outputTokens
  have nonneg : 0 ≤ c.rates.cost t'.inputTokens.toNat t'.outputTokens.toNat :=
    add_nonneg (mul_nonneg (by positivity) (value_nonneg hc.input))
      (mul_nonneg (by positivity) (value_nonneg hc.output))
  have tiny : 3 * (5 * underflow * 2 ^ 53) ≤ 2 ^ (-1000 : ℤ) := by
    have factor : (3 : ℚ) * 5 * 2 ^ 53 ≤ 2 ^ (75 : ℤ) := by norm_num
    calc 3 * (5 * underflow * 2 ^ 53) = 3 * 5 * 2 ^ 53 * 2 ^ (-1075 : ℤ) := by
          rw [underflow]
          ring
      _ ≤ 2 ^ (75 : ℤ) * 2 ^ (-1075 : ℤ) := mul_le_mul_of_nonneg_right factor (two_zpow_pos _).le
      _ = 2 ^ (-1000 : ℤ) := (zpow_add₀ two_ne_zero _ _).symm
  have bound := near.le_of_le near' cheaper nonneg (by linarith [underflow_pos])
  linarith

end Figures

namespace Summary

/-- **A row spends no more than the totals**, up to rounding, if the costliest model covers its
hint. -/
theorem llmSpend_row_le_total {rs : List CallRecord} (few : rs.length < UInt64.size)
    (tenant : String) (window : Window) (profiles : List (String × Profile)) (pricing : String) :
    let s := build tenant window (.ofRecords rs) profiles (.parse pricing)
    ∀ row ∈ s.rows, (RateCard.parse pricing).Covers row.modelHint →
      row.figures.estimate.llmCostPerMinute.isFinite = true →
      s.totals.figures.estimate.llmCostPerMinute.isFinite = true →
      row.figures.llmSpend ≤ s.totals.figures.llmSpend * (1 + 1 / 2 ^ 49) + 2 ^ (-1000 : ℤ) := by
  intro s row h covered finite finiteTotal
  have rates {m : PricedModel} (hm : (RateCard.parse pricing).costliest? = some m) :=
    Pricing.unsigned_rates_parse pricing (Pricing.RateCard.mem_models_of_costliest? hm)
  have bound : 0 ≤ s.totals.figures.llmSpend * (1 + 1 / 2 ^ 49) + 2 ^ (-1000 : ℤ) := by
    have nonneg : 0 ≤ s.totals.figures.llmSpend :=
      Figures.llmSpend_nonneg (fun m hm => rates hm) finiteTotal
    have := two_zpow_pos (-1000)
    positivity
  obtain ⟨⟨id, t⟩, he, rfl⟩ := List.mem_map.mp (List.mem_mergeSort.mp h)
  obtain ⟨model, hmodel⟩ : ∃ model, (RateCard.parse pricing).findModel?
    ((Entries.get? id profiles).getD (.unknown id)).modelHint = model := ⟨_, rfl⟩
  simp only [UseCaseRow.ofTally, hmodel] at finite ⊢
  rcases Nat.eq_zero_or_pos (Pricing.billableMinutes t.calls t.durationMs).toNat with none | pos
  · exact (Figures.llmSpend_eq_zero none).trans_le bound
  have minutes := UInt64.le_iff_toNat_le.mp (Usage.billableMinutes_le_total few he)
  cases model with
  | none => exact Figures.llmSpend_of_no_model.trans_le bound
  | some m =>
    obtain ⟨c, hc, input, output⟩ := covered m hmodel
    simp only [s, build, Totals.ofTally, hc] at finiteTotal ⊢
    exact Figures.llmSpend_le
      (Pricing.unsigned_rates_parse pricing (Pricing.RateCard.mem_models_of_findModel? hmodel))
      (rates hc) input output (Usage.toNat_le_total_of_sum (fun _ => rfl) he)
      (Usage.toNat_le_total_of_sum (fun _ => rfl) he) pos (pos.trans_le minutes) finite finiteTotal

/-- A model that is cheaper than another for input and for output. -/
theorem llmSpend_row_le_total_of_cheaper_model :
    let call : CallRecord := ⟨none, some "booking", some "2024-05-02T09:00:00Z",
      some "2024-05-02T09:01:00Z", none, true, false, 3, 250, 1000, 400⟩
    let pricing := "\x7b\"models\":\x7b\"small\":\x7b\"inputPer1kUsd\":1\x7d," ++
      "\"large\":\x7b\"inputPer1kUsd\":6,\"outputPer1kUsd\":9\x7d\x7d\x7d"
    let s := build "acme" ⟨7, "2024-05-01", "2024-05-08"⟩ (.ofRecords [call])
      [("booking", ⟨"booking", "Booking", some "small"⟩)] (.parse pricing)
    ∃ row ∈ s.rows, (RateCard.parse pricing).Covers row.modelHint ∧
      row.figures.llmSpend ≤ s.totals.figures.llmSpend * (1 + 1 / 2 ^ 49) + 2 ^ (-1000 : ℤ) := by
  intro call pricing s
  let row := UseCaseRow.ofTally (.parse pricing) ⟨"booking", "Booking", some "small"⟩ "booking"
    (.ofCalls [call])
  have card : RateCard.parse pricing =
      ⟨0.5, 0.0, 0.0, 0.0, 0.0, [⟨"small", 1.0, 0.0⟩, ⟨"large", 6.0, 9.0⟩]⟩ := by decide +kernel
  have shown : row ∈ s.rows := List.mem_mergeSort.mpr List.mem_cons_self
  have covered : (RateCard.parse pricing).Covers row.modelHint := by
    have small : (RateCard.parse pricing).findModel? row.modelHint =
        some ⟨"small", 1.0, 0.0⟩ := by
      rw [card]
      decide +kernel
    have large : (RateCard.parse pricing).costliest? = some ⟨"large", 6.0, 9.0⟩ := by
      rw [card]
      decide +kernel
    intro m hm
    obtain rfl := Option.some_inj.mp (small.symm.trans hm)
    exact ⟨_, large, by decide +kernel, by decide +kernel⟩
  have finite : row.figures.estimate.llmCostPerMinute.isFinite = true := by
    simp only [row, card]
    decide +kernel
  have finiteTotal : s.totals.figures.estimate.llmCostPerMinute.isFinite = true := by
    simp only [s, card]
    decide +kernel
  refine ⟨row, shown, covered, ?_⟩
  exact @llmSpend_row_le_total [call] (by decide) "acme" _ _ pricing row shown covered finite
    finiteTotal

/-- **The totals may fall short of a row**: a model that is dearer for input alone is not the
costliest one, and calls without output cost less at the rates of that one. -/
theorem llmSpend_total_lt_row :
    let call : CallRecord := ⟨none, some "booking", some "2024-05-02T09:00:00Z",
      some "2024-05-02T09:01:00Z", none, true, false, 3, 250, 1000, 0⟩
    let pricing := "\x7b\"models\":\x7b\"in\":\x7b\"inputPer1kUsd\":10\x7d," ++
      "\"even\":\x7b\"inputPer1kUsd\":6,\"outputPer1kUsd\":6\x7d\x7d\x7d"
    let s := build "acme" ⟨7, "2024-05-01", "2024-05-08"⟩ (.ofRecords [call])
      [("booking", ⟨"booking", "Booking", some "in"⟩)] (.parse pricing)
    ∃ row ∈ s.rows, row.figures.estimate.llmCostPerMinute.isFinite = true ∧
      s.totals.figures.estimate.llmCostPerMinute.isFinite = true ∧
      s.totals.figures.llmSpend = 6 ∧ row.figures.llmSpend = 10 := by
  intro call pricing s
  let row := UseCaseRow.ofTally (.parse pricing) ⟨"booking", "Booking", some "in"⟩ "booking"
    (.ofCalls [call])
  have card : RateCard.parse pricing =
      ⟨0.5, 0.0, 0.0, 0.0, 0.0, [⟨"in", 10.0, 0.0⟩, ⟨"even", 6.0, 6.0⟩]⟩ := by decide +kernel
  have shown : row ∈ s.rows := List.mem_mergeSort.mpr List.mem_cons_self
  have cost : row.figures.estimate.llmCostPerMinute = 10.0 ∧
      row.figures.billableMinutes.toNat = 1 := by
    simp only [row, card]
    decide +kernel
  have total : s.totals.figures.estimate.llmCostPerMinute = 6.0 ∧
      s.totals.figures.billableMinutes.toNat = 1 := by
    simp only [s, card]
    decide +kernel
  have ten : parts 10.0 = .finite .positive (10 * 2 ^ 49) (-49) (by decide) := rfl
  have six : parts 6.0 = .finite .positive (6 * 2 ^ 50) (-50) (by decide) := rfl
  refine ⟨row, shown, ?_, ?_, ?_, ?_⟩
  · rw [cost.1, (Unsigned.finite ten).isFinite]
  · rw [total.1, (Unsigned.finite six).isFinite]
  · rw [Figures.llmSpend, total.1, total.2, value_of_finite six]
    norm_num
  · rw [Figures.llmSpend, cost.1, cost.2, value_of_finite ten]
    norm_num

end Summary

end CallMeter
