import CallMeter.Proofs.Double.Magnitude
import CallMeter.Proofs.Pricing.TokenCost

/-!
# The costliest model

The models of a card are compared by their combined rates, one after the other, and only a costlier
one takes the lead. The rates of a card that was read are finite and not negative, so a combined
rate is a magnitude, though it may be infinite. Magnitudes are in linear order: the model that
leads in the end is the first of those that no other exceeds.

## Main definitions

* `PricedModel.price`: the combined rate of a model as a magnitude
* `RateCard.Leads`: a model that is the first of the costliest ones of a list
* `RateCard.EarliestCostliest`: the place of the first costliest model

## Main results

* `Leads.costlier`, `leads_foldl`: what a comparison, and what all comparisons keep
* `costliest?_eq_some_iff`: the costliest model is at the first place of the highest rate
* `combined_costliest?_perm`: the highest rate does not depend on the order of the models
-/

namespace CallMeter.Pricing

open Double

/-- **The price of a model**: the magnitude of its combined rate. -/
def PricedModel.price (m : PricedModel) : WithTop ℚ :=
  magnitude m.rates.combined

namespace RateCard

/-- Models whose combined rates have magnitudes. -/
def Priced (models : List PricedModel) : Prop :=
  ∀ m ∈ models, UpToInfinity m.rates.combined

/-- The models of a card that was read have magnitudes for their combined rates. -/
theorem priced_parse (text : String) : Priced (RateCard.parse text).models := by
  intro m hm
  have unsigned := unsigned_rates_parse text hm
  exact (isNearest_add unsigned.input unsigned.output).upToInfinity

variable {card : RateCard} {models rest : List PricedModel} {a b m : PricedModel}

/-! ## Comparisons -/

theorem costlier_some (hb : UpToInfinity b.rates.combined) (ha : UpToInfinity a.rates.combined) :
    costlier (some b) a = some (if b.price < a.price then a else b) := by
  rw [costlier, apply_ite some]
  exact if_congr (lt_iff_magnitude_lt hb ha) rfl rfl

/-- **A model leads a list**: those before it are cheaper, and those after it are not costlier. -/
def Leads (m : PricedModel) (models : List PricedModel) : Prop :=
  ∃ before after, models = before ++ m :: after ∧
    (∀ a ∈ before, a.price < m.price) ∧ ∀ a ∈ after, a.price ≤ m.price

theorem leads_singleton (m : PricedModel) : Leads m [m] :=
  ⟨[], [], rfl, nofun, nofun⟩

theorem Leads.mem (h : Leads m models) : m ∈ models := by
  obtain ⟨before, after, rfl, -, -⟩ := h
  exact List.mem_append_right _ List.mem_cons_self

theorem Leads.price_le (h : Leads m models) (ha : a ∈ models) : a.price ≤ m.price := by
  obtain ⟨before, after, rfl, cheaper, notCostlier⟩ := h
  rcases List.mem_append.mp ha with first | later
  · exact (cheaper a first).le
  · rcases List.mem_cons.mp later with rfl | later
    · exact le_rfl
    · exact notCostlier a later

/-- Models that lead the same list in two orders have one price: each is among those that the other
one leads. -/
theorem Leads.price_eq (h : Leads m models) (h' : Leads a rest) (perm : rest.Perm models) :
    a.price = m.price :=
  le_antisymm (h.price_le (perm.mem_iff.mp h'.mem)) (h'.price_le (perm.mem_iff.mpr h.mem))

/-- **One comparison**: the costlier of the leading model and the next one leads. -/
theorem Leads.costlier (h : Leads b models) :
    Leads (if b.price < a.price then a else b) (models ++ [a]) := by
  split_ifs with lt
  · exact ⟨models, [], rfl, fun c hc => (h.price_le hc).trans_lt lt, nofun⟩
  · obtain ⟨before, after, rfl, cheaper, notCostlier⟩ := h
    refine ⟨before, after ++ [a], by simp, cheaper, fun c hc => ?_⟩
    rcases List.mem_append.mp hc with earlier | last
    · exact notCostlier c earlier
    · rw [List.mem_singleton.mp last]
      exact not_lt.mp lt

/-- **All comparisons**: the model that is left leads the whole list. -/
theorem leads_foldl (priced : Priced (models ++ rest)) (h : Leads b models) :
    ∃ m, rest.foldl RateCard.costlier (some b) = some m ∧ Leads m (models ++ rest) := by
  induction rest generalizing models b with
  | nil => exact ⟨b, rfl, by rwa [List.append_nil]⟩
  | cons a rest ih =>
    have hb := priced b (List.mem_append_left _ h.mem)
    have ha := priced a (List.mem_append_right _ List.mem_cons_self)
    rw [List.foldl_cons, costlier_some hb ha]
    rw [List.append_cons] at priced ⊢
    exact ih priced h.costlier

theorem costliest?_eq_none_iff : card.costliest? = none ↔ card.models = [] := by
  rw [← Option.not_isSome_iff_eq_none, costliest?_isSome, Bool.not_eq_true, Bool.not_eq_false',
    List.isEmpty_iff]

theorem leads_costliest? (priced : Priced card.models) (h : card.costliest? = some m) :
    Leads m card.models := by
  rw [costliest?] at h
  cases models : card.models with
  | nil =>
    rw [models] at h
    cases h
  | cons a rest =>
    rw [models] at h priced
    obtain ⟨c, found, leads⟩ := @leads_foldl [a] rest a priced (leads_singleton a)
    obtain rfl : m = c := Option.some_inj.mp (h.symm.trans found)
    exact leads

/-! ## The first of the highest rates -/

/-- **The place of the first costliest model**: the least of those whose combined rate reaches all
others. Earlier models are cheaper, and no model is costlier. -/
structure EarliestCostliest (models : List PricedModel) (i : Fin models.length) : Prop where
  reaches : ∀ a ∈ models, a.rates.combined ≤ (models.get i).rates.combined
  least : ∀ j : Fin models.length,
    (∀ a ∈ models, a.rates.combined ≤ (models.get j).rates.combined) → i ≤ j
  cheaper : ∀ j < i, (models.get j).rates.combined < (models.get i).rates.combined
  not_costlier : ∀ a ∈ models, ¬ (models.get i).rates.combined < a.rates.combined

theorem EarliestCostliest.unique {i j : Fin models.length} (hi : EarliestCostliest models i)
    (hj : EarliestCostliest models j) : i = j :=
  le_antisymm (hi.least j hj.reaches) (hj.least i hi.reaches)

theorem earliestCostliest_of_price (priced : Priced models) {i : Fin models.length}
    (highest : ∀ a ∈ models, a.price ≤ (models.get i).price)
    (cheaper : ∀ j < i, (models.get j).price < (models.get i).price) :
    EarliestCostliest models i := by
  have member (j : Fin models.length) : UpToInfinity (models.get j).rates.combined :=
    priced _ (models.get_mem j)
  refine ⟨fun a ha => ?_, fun j reaches => ?_, fun j lt => ?_, fun a ha => ?_⟩
  · exact (le_iff_magnitude_le (priced a ha) (member i)).mpr (highest a ha)
  · by_contra! lt
    have above := reaches _ (models.get_mem i)
    exact (cheaper j lt).not_ge ((le_iff_magnitude_le (member i) (member j)).mp above)
  · exact (lt_iff_magnitude_lt (member j) (member i)).mpr (cheaper j lt)
  · rw [lt_iff_magnitude_lt (member i) (priced a ha)]
    exact (highest a ha).not_gt

theorem Leads.exists_earliestCostliest (priced : Priced models) (h : Leads m models) :
    ∃ i : Fin models.length, models.get i = m ∧ EarliestCostliest models i := by
  have highest : ∀ a ∈ models, a.price ≤ m.price := fun a ha => h.price_le ha
  obtain ⟨before, after, rfl, cheaper, -⟩ := h
  have place : before.length < (before ++ m :: after).length := by simp
  have found : (before ++ m :: after)[before.length] = m := by simp
  refine ⟨⟨before.length, place⟩, found, earliestCostliest_of_price priced ?_ ?_⟩
  · simpa using highest
  · intro j lt
    have earlier : j.val < before.length := lt
    simp only [List.get_eq_getElem, found, List.getElem_append_left earlier]
    exact cheaper _ (List.getElem_mem _)

/-- **The costliest model** is at the first place of the highest rate. -/
theorem costliest?_eq_some_iff (priced : Priced card.models) :
    card.costliest? = some m ↔
      ∃ i : Fin card.models.length, card.models.get i = m ∧ EarliestCostliest card.models i := by
  constructor
  · intro h
    exact (leads_costliest? priced h).exists_earliestCostliest priced
  · rintro ⟨i, rfl, hi⟩
    cases h : card.costliest? with
    | none => exact absurd (costliest?_eq_none_iff.mp h) (List.ne_nil_of_length_pos i.pos)
    | some m =>
      obtain ⟨j, rfl, hj⟩ := (leads_costliest? priced h).exists_earliestCostliest priced
      rw [hi.unique hj]

/-- **The highest rate** does not depend on the order of the models. -/
theorem combined_costliest?_perm {other : RateCard} (priced : Priced card.models)
    (perm : other.models.Perm card.models) :
    other.costliest?.map (·.rates.combined) = card.costliest?.map (·.rates.combined) := by
  have pricedOther : Priced other.models := fun a ha => priced a (perm.mem_iff.mp ha)
  cases h : card.costliest? with
  | none =>
    have empty := costliest?_eq_none_iff.mp h
    rw [empty, List.perm_nil] at perm
    rw [costliest?_eq_none_iff.mpr perm]
  | some m =>
    have leads := leads_costliest? priced h
    cases h' : other.costliest? with
    | none =>
      rw [costliest?_eq_none_iff.mp h'] at perm
      exact absurd (perm.mem_iff.mpr leads.mem) List.not_mem_nil
    | some a =>
      have leads' := leads_costliest? pricedOther h'
      have same : a.rates.combined = m.rates.combined :=
        eq_of_magnitude_eq (pricedOther a leads'.mem) (priced m leads.mem)
          (leads.price_eq leads' perm)
      exact congrArg some same

/-- **The costliest model of a card that was read.** There is none only if the card has no models.
Else it is the one at the first place of the highest combined rate, which is the highest rate of
the same models in every order. -/
theorem costliest_is_earliest_maximum {text : String} {card : RateCard}
    (read : RateCard.parse text = card) :
    (card.costliest? = none ↔ card.models = []) ∧
    (∀ m, card.costliest? = some m ↔
      ∃ i : Fin card.models.length, card.models.get i = m ∧ EarliestCostliest card.models i) ∧
    ∀ other : RateCard, other.models.Perm card.models →
      other.costliest?.map (·.rates.combined) = card.costliest?.map (·.rates.combined) := by
  have priced : Priced card.models := read ▸ priced_parse text
  exact ⟨costliest?_eq_none_iff, fun _ => costliest?_eq_some_iff priced,
    fun _ => combined_costliest?_perm priced⟩

/-- Two of three models have an infinite combined rate, and the first of these is the costliest. -/
theorem costliest_is_first_infinite :
    let text := "\x7b\"models\":\x7b\"plain\":\x7b\"inputPer1kUsd\":3\x7d," ++
      "\"wide\":\x7b\"inputPer1kUsd\":1e308,\"outputPer1kUsd\":1e308\x7d," ++
      "\"vast\":\x7b\"inputPer1kUsd\":1.5e308,\"outputPer1kUsd\":1e308\x7d\x7d\x7d"
    let plain : PricedModel := ⟨"plain", 3.0, 0.0⟩
    let wide : PricedModel := ⟨"wide", 1e308, 1e308⟩
    let vast : PricedModel := ⟨"vast", 1.5e308, 1e308⟩
    let other : RateCard := ⟨0.5, 0.0, 0.0, 0.0, 0.0, [vast, wide, plain]⟩
    RateCard.parse text = ⟨0.5, 0.0, 0.0, 0.0, 0.0, [plain, wide, vast]⟩ ∧
      (∃ i : Fin 3, [plain, wide, vast].get i = wide ∧ EarliestCostliest [plain, wide, vast] i) ∧
      wide.rates.combined = 1.0 / 0.0 ∧ other.costliest? = some vast ∧
      other.costliest?.map (·.rates.combined) = some wide.rates.combined := by
  intro text plain wide vast other
  have read : RateCard.parse text = ⟨0.5, 0.0, 0.0, 0.0, 0.0, [plain, wide, vast]⟩ := by
    decide +kernel
  obtain ⟨-, found, highest⟩ := costliest_is_earliest_maximum read
  have most : RateCard.costliest? ⟨0.5, 0.0, 0.0, 0.0, 0.0, [plain, wide, vast]⟩ = some wide := by
    decide +kernel
  refine ⟨read, (found wide).mp most, by decide +kernel, by decide +kernel, ?_⟩
  rw [highest other (by decide +kernel), most]
  rfl

end RateCard

end CallMeter.Pricing
