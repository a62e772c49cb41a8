import CallMeter.Proofs.Double.Error
import CallMeter.Proofs.Double.Order
import CallMeter.Pricing.Estimate
import CallMeter.Pricing.Reader

/-!
# The cost of tokens

What an estimate gives for the tokens of a minute, against the exact cost. The rates of a model
are finite and not negative, so a cost that comes out finite was computed without an infinite
step, and each step rounded by a small part at most.

## Main definitions

* `ModelRates.cost`: the exact cost of tokens

## Main results

* `unsigned_rates_parse`: the rates of a rate card are finite and not negative
* `near_llmCost`: the estimated cost of a minute's tokens is near to the exact one
-/

namespace CallMeter.Pricing

open Double

/-! ## Rates -/

theorem unsigned_rate (key : String) (members : List (String × Json)) :
    Unsigned (rate key members) := by
  unfold rate
  split
  next x found =>
    split_ifs with pos
    · exact unsigned_of_pos (Option.filter_eq_some_iff.mp found).2 pos
    · exact unsigned_zero
  next => exact unsigned_zero

/-- Rates that are finite and not negative. -/
structure ModelRates.Unsigned (r : ModelRates) : Prop where
  input : Double.Unsigned r.input
  output : Double.Unsigned r.output

theorem unsigned_readModel {e : String × Json} {m : PricedModel} (h : readModel? e = some m) :
    m.rates.Unsigned := by
  unfold readModel? at h
  split at h
  · cases h
    exact ⟨unsigned_rate _ _, unsigned_rate _ _⟩
  · cases h

/-- **The rates of a rate card** are finite and not negative. -/
theorem unsigned_rates_parse (text : String) {m : PricedModel}
    (h : m ∈ (RateCard.parse text).models) : m.rates.Unsigned := by
  unfold RateCard.parse at h
  split at h
  next members read =>
    rw [RateCard.ofMembers, readModels.eq_def] at h
    split at h
    · obtain ⟨e, -, he⟩ := List.mem_filterMap.mp h
      exact unsigned_readModel he
    · cases h
  next => cases h

namespace RateCard

variable {card : RateCard}

theorem mem_models_of_findModel? {hint : Option String} {m : PricedModel}
    (h : card.findModel? hint = some m) : m ∈ card.models := by
  unfold findModel? at h
  split at h
  · cases h
  · dsimp only at h
    split_ifs at h
    exact List.mem_of_find?_eq_some h

theorem mem_models_of_costliest? {m : PricedModel} (h : card.costliest? = some m) :
    m ∈ card.models := by
  have kept : ∀ (ms : List PricedModel) (best : Option PricedModel),
      ms.foldl costlier best = some m → best = some m ∨ m ∈ ms := by
    intro ms
    induction ms with
    | nil => exact fun best h => .inl h
    | cons a ms ih =>
      intro best h
      rcases ih _ h with same | later
      · unfold costlier at same
        split at same
        · cases same
          exact .inr List.mem_cons_self
        · split_ifs at same
          · cases same
            exact .inr List.mem_cons_self
          · exact .inl same
      · exact .inr (List.mem_cons_of_mem _ later)
  exact (kept _ _ h).resolve_left (by simp)

end RateCard

/-! ## Figures of a minute -/

theorem billableMinutes_lt (calls durationMs : UInt64) :
    (billableMinutes calls durationMs).toNat < 2 ^ 53 := by
  have most := durationMs.toNat_lt
  rw [toNat_billableMinutes]
  split_ifs
  · norm_num
  · omega

variable {tokens minutes : UInt64} {rate : Float}

/-- A minute's tokens in thousands, near to the exact ratio: no step rounds close to zero. -/
theorem near_perMinute_div (pos : 0 < minutes.toNat) (few : minutes.toNat < 2 ^ 53)
    (finite : (perMinute tokens minutes / 1000.0).isFinite = true) :
    Unsigned (perMinute tokens minutes / 1000.0) ∧
      Near 3 0 (tokens.toNat / minutes.toNat / 1000)
        (value (perMinute tokens minutes / 1000.0)) := by
  have some : (minutes == 0) = false := by
    rw [beq_eq_false_iff_ne]
    rintro rfl
    exact absurd pos (by decide)
  have spread : perMinute tokens minutes = tokens.toFloat / minutes.toFloat := by
    rw [perMinute, some]
    rfl
  rw [spread] at finite ⊢
  have exact : value minutes.toFloat = minutes.toNat := value_toFloat_of_lt few
  have positive : (0 : ℚ) < minutes.toNat := Nat.cast_pos.mpr pos
  have ratio := isNearest_div (unsigned_toFloat tokens) (unsigned_toFloat minutes)
    (exact ▸ positive.ne')
  have unsigned := ratio.unsigned (isFinite_of_div finite)
  have thousands := isNearest_div unsigned unsigned_thousand (by rw [value_thousand]; norm_num)
  refine ⟨thousands.unsigned finite, ?_⟩
  rw [thousands.value_eq finite, ratio.value_eq (isFinite_of_div finite), exact, value_thousand,
    value_toFloat]
  rcases Nat.eq_zero_or_pos tokens.toNat with none | some
  · rw [none, Nat.cast_zero, nearest_zero, zero_div, zero_div, nearest_zero, zero_div, nearest_zero]
    exact .zero le_rfl
  · have normal {k : ℤ} {w : ℚ} (hk : -1022 ≤ k) (h : 2 ^ k ≤ w) : (2 : ℚ) ^ (-1022 : ℤ) ≤ w :=
      (zpow_le_zpow_right₀ one_le_two hk).trans h
    have one : (2 : ℚ) ^ (0 : ℤ) ≤ tokens.toNat := by exact_mod_cast some
    have first := (Near.refl (tokens.toNat : ℚ)).nearest_of_normal (normal (by norm_num) one)
    have second := first.div_right positive.le
    rw [zero_div] at second
    have least : (2 : ℚ) ^ (-53 : ℤ) ≤ nearest tokens.toNat / minutes.toNat := by
      have whole : (2 : ℚ) ^ (0 : ℤ) ≤ nearest tokens.toNat := zpow_le_nearest (by norm_num) one
      have most : (minutes.toNat : ℚ) ≤ 2 ^ (53 : ℤ) := by exact_mod_cast few.le
      rw [le_div_iff₀ positive]
      calc (2 : ℚ) ^ (-53 : ℤ) * minutes.toNat ≤ 2 ^ (-53 : ℤ) * 2 ^ (53 : ℤ) :=
            mul_le_mul_of_nonneg_left most (two_zpow_pos _).le
        _ = 2 ^ (0 : ℤ) := (zpow_add₀ two_ne_zero _ _).symm
        _ ≤ nearest tokens.toNat := whole
    have third := (second.nearest_of_normal (normal (by norm_num) least)).div_right
      (by norm_num : (0 : ℚ) ≤ 1000)
    rw [zero_div] at third
    refine third.nearest_of_normal (normal (k := -63) (by norm_num) ?_)
    have rounded := zpow_le_nearest (by norm_num) least
    norm_num at rounded ⊢
    linarith

/-- The cost of a minute's tokens at a rate, near to the exact cost. -/
theorem near_tokenCost (hr : Unsigned rate) (pos : 0 < minutes.toNat)
    (few : minutes.toNat < 2 ^ 53)
    (finite : (perMinute tokens minutes / 1000.0 * rate).isFinite = true) :
    Unsigned (perMinute tokens minutes / 1000.0 * rate) ∧
      Near 4 underflow (tokens.toNat / minutes.toNat / 1000 * value rate)
        (value (perMinute tokens minutes / 1000.0 * rate)) := by
  obtain ⟨unsigned, near⟩ := near_perMinute_div pos few (isFinite_of_mul finite).1
  have product := isNearest_mul unsigned hr
  have scaled := near.mul_right (value_nonneg hr)
  rw [zero_mul] at scaled
  have rounded := scaled.nearest (mul_nonneg (value_nonneg unsigned) (value_nonneg hr)) le_rfl
  rw [mul_zero, zero_add] at rounded
  exact ⟨product.unsigned finite, product.value_eq finite ▸ rounded⟩

/-- **The exact cost** of tokens at the rates of a model. -/
def ModelRates.cost (r : ModelRates) (inputTokens outputTokens : ℕ) : ℚ :=
  inputTokens / 1000 * value r.input + outputTokens / 1000 * value r.output

/-- **The estimated cost of a minute's tokens** is near to the exact one. -/
theorem near_llmCost {input output : UInt64} {m : PricedModel} (hm : m.rates.Unsigned)
    (pos : 0 < minutes.toNat) (few : minutes.toNat < 2 ^ 53)
    (finite : (llmCost (perMinute input minutes) (perMinute output minutes) (some m)).isFinite =
      true) :
    Unsigned (llmCost (perMinute input minutes) (perMinute output minutes) (some m)) ∧
      Near 5 (5 * underflow) (m.rates.cost input.toNat output.toNat / minutes.toNat)
        (value (llmCost (perMinute input minutes) (perMinute output minutes) (some m))) := by
  rw [llmCost] at finite ⊢
  obtain ⟨finiteInput, finiteOutput⟩ := isFinite_of_add finite
  obtain ⟨unsignedInput, nearInput⟩ := near_tokenCost hm.input pos few finiteInput
  obtain ⟨unsignedOutput, nearOutput⟩ := near_tokenCost hm.output pos few finiteOutput
  have tiny := underflow_pos
  have rounded := (nearInput.add nearOutput).nearest
    (add_nonneg (value_nonneg unsignedInput) (value_nonneg unsignedOutput)) (by linarith)
  have exact : m.rates.cost input.toNat output.toNat / minutes.toNat =
      input.toNat / minutes.toNat / 1000 * value m.rates.input +
        output.toNat / minutes.toNat / 1000 * value m.rates.output := by
    rw [ModelRates.cost]
    ring
  have sum := isNearest_add unsignedInput unsignedOutput
  refine ⟨sum.unsigned finite, ?_⟩
  rw [sum.value_eq finite, exact]
  convert rounded using 1
  ring

end CallMeter.Pricing
