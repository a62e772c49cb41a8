import CallMeter.Proofs.Double.Whole
import CallMeter.Proofs.Json.Members
import CallMeter.Proofs.Pricing.TokenCost

/-!
# The fields of a rate card

Every text gives a valid rate card, in which each field depends on the last value given for it
alone. So whatever is wrong with a value stays in its field, and in its rate if it belongs to a
model; and texts that come to the same values give the same card, up to the order of its models.

## Main definitions

* `RateCard.Valid`: cards with a margin from zero to one and rates that are not negative
* `RateCard.AgreeBut`, `RateCard.AgreeButRate`: cards that agree but for a field or a rate

## Main results

* `parse_of_gives`: the card of a text is that of the members that it gives
* `models_ofGiven`: the models of a card, in the last values given for their keys
* `valid_ofGiven`: the card of any members is valid
* `agreeBut_of_differsAt`, `agreeButRate_of_differsAt`, `agreeInAnyOrder_of_agree`: the cards of
  members that differ in a field or in a rate, or come to the same
* `parse_fields`: all of this for the cards of texts
-/

namespace CallMeter

namespace Pricing

open Double (Unsigned)
open Json (asDouble? lastGiven? membersGiven settledMembers DiffersAt Agree Gives)

variable {given given' : List (String × Json)} {key : String}

/-! ## Rates -/

/-- A rate is in the number that is read under its key. -/
theorem rate_congr (h : asDouble? (Entries.get? key given) = asDouble? (Entries.get? key given')) :
    rate key given = rate key given' := by
  rw [rate, finite?, h]
  rfl

/-- The rate under a key is that of the last value given for it. -/
theorem rate_settled (key : String) (given : List (String × Json)) :
    rate key (Entries.ofList (settledMembers given)) = rate key given.reverse := by
  refine rate_congr ?_
  rw [Json.get?_settled, Json.asDouble?_settled, lastGiven?]

/-- The rates of a model with the given members. -/
def ModelRates.ofGiven (given : List (String × Json)) : ModelRates :=
  ⟨rate "inputPer1kUsd" given.reverse, rate "outputPer1kUsd" given.reverse⟩

/-- The model with a key and the last value given for it. -/
def modelGiven? (key : String) : Option Json → Option PricedModel
  | some (.object given) => some ⟨key, .ofGiven given⟩
  | _ => none

theorem readModel?_settled (key : String) (v : Option Json) :
    ((v.map Json.settled).map fun w => (key, w)).bind readModel? = modelGiven? key v := by
  cases v with
  | none => rfl
  | some v =>
    cases v with
    | object given =>
      rw [Option.map_some, Option.map_some, Option.bind_some, Json.settled, readModel?,
        rate_settled, rate_settled]
      rfl
    | _ => rfl

theorem eq_of_modelGiven? {v : Option Json} {m : PricedModel} (h : modelGiven? key v = some m) :
    m.key = key ∧ ∃ given, m.rates = .ofGiven given := by
  unfold modelGiven? at h
  split at h
  · cases h
    exact ⟨rfl, _, rfl⟩
  · cases h

namespace RateCard

/-! ## Cards of given members -/

/-- The rate card of an object with the given members. -/
def ofGiven (given : List (String × Json)) : RateCard :=
  ofMembers (Entries.ofList (settledMembers given))

/-- The members of the models object. -/
def modelsGiven (given : List (String × Json)) : List (String × Json) :=
  membersGiven (lastGiven? "models" given)

/-- **The card of a text** is that of the members that it gives. -/
theorem parse_of_gives {text : String} (h : Gives text (.object given)) :
    parse text = ofGiven given := by
  rw [parse, Json.parse?_eq_some_iff.mpr ⟨_, h, rfl⟩, Json.settled]
  rfl

/-- **The models of a card**: one for each key, in the order in which the keys are given first,
of the last value given for it. -/
theorem models_ofGiven (given : List (String × Json)) :
    (ofGiven given).models = ((modelsGiven given).map Prod.fst).eraseDups.filterMap fun key =>
      modelGiven? key (lastGiven? key (modelsGiven given)) := by
  have models : (ofGiven given).models =
      (Entries.ofList (settledMembers (modelsGiven given))).filterMap readModel? := by
    have read : (ofGiven given).models =
        readModels (Entries.get? "models" (Entries.ofList (settledMembers given))) := rfl
    rw [read, Json.get?_settled, modelsGiven]
    cases lastGiven? "models" given with
    | none => rfl
    | some v => cases v <;> rfl
  have keys : (settledMembers (modelsGiven given)).map Prod.fst =
      (modelsGiven given).map Prod.fst := by
    rw [Json.settledMembers_eq, List.map_map]
    rfl
  rw [models, ← Entries.filterMap_keys (Entries.nodup_keys_ofList _), List.filterMap_filterMap,
    Entries.keys_ofList, keys]
  refine List.filterMap_congr fun key _ => ?_
  rw [Json.get?_settled, readModel?_settled]

theorem mem_models_ofGiven {m : PricedModel} : m ∈ (ofGiven given).models ↔
    modelGiven? m.key (lastGiven? m.key (modelsGiven given)) = some m := by
  rw [models_ofGiven, List.mem_filterMap]
  constructor
  · rintro ⟨key, -, same⟩
    rwa [(eq_of_modelGiven? same).1]
  · intro same
    refine ⟨m.key, ?_, same⟩
    cases last : lastGiven? m.key (modelsGiven given) with
    | none =>
      rw [last] at same
      cases same
    | some v =>
      have listed := Entries.mem_keys_of_get? last
      rwa [List.map_reverse, List.mem_reverse, ← List.mem_eraseDups] at listed

/-- **The keys of the models** are those that were given an object last, in the order in which
they were given first. -/
theorem map_key_models_ofGiven (given : List (String × Json)) :
    (ofGiven given).models.map PricedModel.key =
      ((modelsGiven given).map Prod.fst).eraseDups.filter fun key =>
        (lastGiven? key (modelsGiven given)).any Json.isObject := by
  rw [models_ofGiven, List.map_filterMap, ← List.filterMap_eq_filter]
  refine List.filterMap_congr fun key _ => ?_
  rw [Option.guard]
  cases lastGiven? key (modelsGiven given) with
  | none => rfl
  | some v => cases v <;> rfl

theorem nodup_keys_ofGiven (given : List (String × Json)) :
    ((ofGiven given).models.map PricedModel.key).Nodup := by
  rw [map_key_models_ofGiven, ← Entries.keys_ofList]
  exact (Entries.nodup_keys_ofList _).filter _

/-! ## Valid cards -/

/-- The rates of a card. -/
def rates (card : RateCard) : List Float :=
  [card.connectPerMinute, card.lexPerTurn, card.lambdaPerTurn, card.infraPerMinute] ++
    card.models.flatMap fun m => [m.rates.input, m.rates.output]

/-- **Valid cards**: the margin is a number from zero to one, the rates are finite and not below
zero, and each model has a key of its own. -/
structure Valid (card : RateCard) : Prop where
  margin_number : card.margin.isNaN = false
  margin_nonneg : ¬ card.margin < 0.0
  margin_le_one : ¬ 1.0 < card.margin
  rates : ∀ x ∈ card.rates, x.isFinite = true ∧ ¬ x < 0.0
  keys : (card.models.map PricedModel.key).Nodup

/-- A clamped margin is a number from zero to one, whatever it was before. -/
theorem clampMargin_bounds (x : Float) :
    (clampMargin x).isNaN = false ∧ ¬ clampMargin x < 0.0 ∧ ¬ 1.0 < clampMargin x := by
  unfold clampMargin
  split_ifs with notNumber low high
  · decide
  · decide
  · decide
  · exact ⟨Bool.eq_false_of_not_eq_true notNumber, low, high⟩

theorem not_lt_zero {x : Float} (h : Unsigned x) : ¬ x < 0.0 := by
  rw [Double.lt_iff_value_lt h Double.unsigned_zero, Double.value_of_zero Double.parts_zero]
  exact not_lt.mpr (Double.value_nonneg h)

theorem valid_default : default.Valid where
  margin_number := by decide
  margin_nonneg := by decide
  margin_le_one := by decide
  rates := by decide
  keys := List.nodup_nil

theorem valid_ofGiven (given : List (String × Json)) : (ofGiven given).Valid where
  margin_number := (clampMargin_bounds _).1
  margin_nonneg := (clampMargin_bounds _).2.1
  margin_le_one := (clampMargin_bounds _).2.2
  rates := by
    intro x hx
    have unsigned : Unsigned x := by
      rcases List.mem_append.mp hx with fixed | ofModel
      · simp only [List.mem_cons, List.not_mem_nil, or_false] at fixed
        rcases fixed with rfl | rfl | rfl | rfl <;> exact unsigned_rate _ _
      · obtain ⟨m, hm, hx⟩ := List.mem_flatMap.mp ofModel
        obtain ⟨-, rates, same⟩ := eq_of_modelGiven? (mem_models_ofGiven.mp hm)
        simp only [same, List.mem_cons, List.not_mem_nil, or_false] at hx
        rcases hx with rfl | rfl <;> exact unsigned_rate _ _
    exact ⟨unsigned.isFinite, not_lt_zero unsigned⟩
  keys := nodup_keys_ofGiven given

/-! ## Two cards -/

/-- **Cards that agree but for a field**, which is named as in their texts. -/
structure AgreeBut (field : String) (card card' : RateCard) : Prop where
  margin : field ≠ "marginPct" → card.margin = card'.margin
  connectPerMinute : field ≠ "connectPerMinuteUsd" → card.connectPerMinute = card'.connectPerMinute
  lexPerTurn : field ≠ "lexPerTurnUsd" → card.lexPerTurn = card'.lexPerTurn
  lambdaPerTurn : field ≠ "lambdaPerTurnUsd" → card.lambdaPerTurn = card'.lambdaPerTurn
  infraPerMinute : field ≠ "infraPerMinuteUsd" → card.infraPerMinute = card'.infraPerMinute
  models : field ≠ "models" → card.models = card'.models

/-- Models that agree but for a rate of the model with a key. -/
structure ModelsAgreeBut (key rate : String) (m m' : PricedModel) : Prop where
  key_eq : m.key = m'.key
  input : m.key = key ∧ rate = "inputPer1kUsd" ∨ m.rates.input = m'.rates.input
  output : m.key = key ∧ rate = "outputPer1kUsd" ∨ m.rates.output = m'.rates.output

/-- **Cards that agree but for a rate** of the model with a key. -/
structure AgreeButRate (key rate : String) (card card' : RateCard) : Prop where
  fields : AgreeBut "models" card card'
  models : List.Forall₂ (ModelsAgreeBut key rate) card.models card'.models

/-- **Cards that agree up to the order** of their models. -/
structure AgreeInAnyOrder (card card' : RateCard) : Prop where
  fields : AgreeBut "models" card card'
  models : card.models.Perm card'.models

/-- The fields of cards with the same numbers given for them. -/
theorem agreeBut_of_asDouble? {field : String} (same : ∀ key, key ≠ field →
      asDouble? (lastGiven? key given) = asDouble? (lastGiven? key given'))
    (models : field ≠ "models" → (ofGiven given).models = (ofGiven given').models) :
    AgreeBut field (ofGiven given) (ofGiven given') := by
  have settled {key : String} (other : field ≠ key) :
      asDouble? (Entries.get? key (Entries.ofList (settledMembers given))) =
        asDouble? (Entries.get? key (Entries.ofList (settledMembers given'))) := by
    rw [Json.get?_settled, Json.get?_settled, Json.asDouble?_settled, Json.asDouble?_settled,
      same key other.symm]
  constructor
  · intro other
    show clampMargin ((finite? _ _).getD _) = clampMargin ((finite? _ _).getD _)
    rw [finite?, finite?, settled other]
  · exact fun other => rate_congr (settled other)
  · exact fun other => rate_congr (settled other)
  · exact fun other => rate_congr (settled other)
  · exact fun other => rate_congr (settled other)
  · exact models

/-- **What is wrong with a field** stays in the field. -/
theorem agreeBut_of_differsAt {field : String}
    (h : DiffersAt [field] (.object given) (.object given')) :
    AgreeBut field (ofGiven given) (ofGiven given') := by
  refine agreeBut_of_asDouble? (fun key other => ?_) (fun other => ?_)
  · rw [h.lastGiven?_eq other]
  · rw [models_ofGiven, models_ofGiven, modelsGiven, modelsGiven, h.lastGiven?_eq other.symm]

theorem rel_refl (key rate : String) (m : Option PricedModel) :
    Option.Rel (ModelsAgreeBut key rate) m m := by
  cases m with
  | none => exact .none
  | some m => exact .some ⟨rfl, .inr rfl, .inr rfl⟩

/-- The models of values that differ in a rate. -/
theorem rel_modelGiven? {key rate : String} {v v' : Option Json}
    (h : Option.Rel (DiffersAt [rate]) v v') :
    Option.Rel (ModelsAgreeBut key rate) (modelGiven? key v) (modelGiven? key v') := by
  cases h with
  | none => exact .none
  | some h =>
    rcases h.eq_or_objects with rfl | ⟨given, given', rfl, rfl⟩
    · exact rel_refl key rate _
    · have same {name : String} (other : name ≠ rate) :
          Pricing.rate name given.reverse = Pricing.rate name given'.reverse :=
        rate_congr (congrArg asDouble? (h.lastGiven?_eq other))
      refine .some ⟨rfl, ?_, ?_⟩
      · rcases eq_or_ne rate "inputPer1kUsd" with is | other
        · exact .inl ⟨rfl, is⟩
        · exact .inr (same other.symm)
      · rcases eq_or_ne rate "outputPer1kUsd" with is | other
        · exact .inl ⟨rfl, is⟩
        · exact .inr (same other.symm)

/-- **What is wrong with a rate** stays in the rate. -/
theorem agreeButRate_of_differsAt {key rate : String}
    (h : DiffersAt ["models", key, rate] (.object given) (.object given')) :
    AgreeButRate key rate (ofGiven given) (ofGiven given') where
  fields := agreeBut_of_asDouble? (fun k other => by rw [h.lastGiven?_eq other]) (absurd rfl)
  models := by
    have differ : DiffersAt [key, rate] (.object (modelsGiven given))
        (.object (modelsGiven given')) := Json.differsAt_membersGiven h.rel_lastGiven?
    rw [models_ofGiven, models_ofGiven, differ.map_fst_eq]
    refine List.rel_filterMap (R := Eq) ?_ (List.forall₂_same.mpr fun _ _ => rfl)
    rintro k _ rfl
    dsimp only
    rcases eq_or_ne k key with rfl | other
    · exact rel_modelGiven? differ.rel_lastGiven?
    · rw [differ.lastGiven?_eq other]
      exact rel_refl key rate _

theorem modelGiven?_eq_of_agree {v v' : Option Json} (h : Option.Rel Agree v v') (key : String) :
    modelGiven? key v = modelGiven? key v' := by
  cases h with
  | none => rfl
  | some h =>
    cases h with
    | refl => rfl
    | array => rfl
    | @object given given' h =>
      have same (name : String) : rate name given.reverse = rate name given'.reverse :=
        rate_congr (Json.asDouble?_eq_of_agree (h name))
      rw [modelGiven?, modelGiven?, ModelRates.ofGiven, ModelRates.ofGiven, same, same]

/-- **Values that come to the same** give the same card, up to the order of its models. -/
theorem agreeInAnyOrder_of_agree (h : Agree (.object given) (.object given')) :
    AgreeInAnyOrder (ofGiven given) (ofGiven given') := by
  have last := Json.rel_agree_lastGiven? (.some h)
  have models := Json.rel_agree_lastGiven? (last "models")
  have fields := agreeBut_of_asDouble? (fun key _ => Json.asDouble?_eq_of_agree (last key))
    (absurd (rfl : "models" = "models"))
  have once (given : List (String × Json)) : (ofGiven given).models.Nodup :=
    .of_map _ (nodup_keys_ofGiven given)
  refine ⟨fields, (List.perm_ext_iff_of_nodup (once given) (once given')).mpr fun m => ?_⟩
  rw [mem_models_ofGiven, mem_models_ofGiven]
  exact iff_of_eq (congrArg (· = some m) (modelGiven?_eq_of_agree (models m.key) m.key))

/-! ## Texts -/

/-- **The card of any text** is valid, and that of a text without an object is the card without
prices. An object gives its models in the order in which their keys are given first, and those
alone whose last value is an object. Two texts that differ in a field or in a rate have cards
that agree in all else, and texts that come to the same have the same card, up to the order of
its models. -/
theorem parse_fields (text : String) :
    (parse text).Valid ∧
    ((∀ members, Json.parse? text ≠ some (.object members)) → parse text = default) ∧
    (∀ members, Json.parse? text = some (.object members) →
      ∃ given, Gives text (.object given)) ∧
    ∀ given, Gives text (.object given) →
      (parse text).models.map PricedModel.key =
        ((modelsGiven given).map Prod.fst).eraseDups.filter (fun key =>
          (lastGiven? key (modelsGiven given)).any Json.isObject) ∧
      ∀ text' given', Gives text' (.object given') →
        (∀ field, DiffersAt [field] (.object given) (.object given') →
          AgreeBut field (parse text) (parse text')) ∧
        (∀ key rate, DiffersAt ["models", key, rate] (.object given) (.object given') →
          AgreeButRate key rate (parse text) (parse text')) ∧
        (Agree (.object given) (.object given') →
          AgreeInAnyOrder (parse text) (parse text')) := by
  have eq_default (noObject : ∀ members, Json.parse? text ≠ some (.object members)) :
      parse text = default := by
    unfold parse
    split
    next members read => exact absurd read (noObject members)
    next => rfl
  refine ⟨?_, eq_default, fun _ => Json.exists_given, ?_⟩
  · by_cases object : ∃ members, Json.parse? text = some (.object members)
    · obtain ⟨members, read⟩ := object
      obtain ⟨given, gives⟩ := Json.exists_given read
      rw [parse_of_gives gives]
      exact valid_ofGiven given
    · rw [eq_default (not_exists.mp object)]
      exact valid_default
  · intro given gives
    rw [parse_of_gives gives]
    refine ⟨map_key_models_ofGiven given, ?_⟩
    intro text' given' gives'
    rw [parse_of_gives gives']
    exact ⟨fun _ => agreeBut_of_differsAt, fun _ _ => agreeButRate_of_differsAt,
      agreeInAnyOrder_of_agree⟩

/-- A margin that is no number, a rate that is none, and a margin that is given twice. -/
theorem parse_fields_of_malformed_values :
    let number (n : UInt64) : Json := .number (.natural n)
    let given (margin rate : Json) : List (String × Json) :=
      [("marginPct", margin), ("models", .object [("a", .object [("inputPer1kUsd", rate)])])]
    let card (given : List (String × Json)) := parse (Json.compact (.object given))
    AgreeBut "marginPct" (card (given (number 1) (number 2)))
        (card (given (.string "lots") (number 2))) ∧
      AgreeButRate "a" "inputPer1kUsd" (card (given (number 1) (number 2)))
        (card (given (number 1) .null)) ∧
      AgreeInAnyOrder (card (given (number 1) (number 2)))
        (card (("marginPct", .null) :: given (number 1) (number 2))) := by
  intro number given card
  have nested {margin rate : Json} (hm : ∀ n, margin.Nested n) (hr : ∀ n, rate.Nested n) :
      ∀ e ∈ given margin rate, e.2.Nested 126 := by
    have rates : ∀ e ∈ [("inputPer1kUsd", rate)], e.2.Nested 124 :=
      List.forall_mem_singleton.mpr (hr _)
    have models : ∀ e ∈ [("a", Json.object [("inputPer1kUsd", rate)])], e.2.Nested 125 :=
      List.forall_mem_singleton.mpr (.object rates)
    exact List.forall_mem_cons.mpr ⟨hm _, List.forall_mem_singleton.mpr (.object models)⟩
  have numbers : ∀ e ∈ given (number 1) (number 2), e.2.Nested 126 :=
    nested (fun _ => .number _) fun _ => .number _
  have gives : Gives (Json.compact (.object (given (number 1) (number 2))))
      (.object (given (number 1) (number 2))) :=
    ⟨by dsimp only [given, number]; rfl, .object numbers⟩
  have margin : Gives (Json.compact (.object (given (.string "lots") (number 2))))
      (.object (given (.string "lots") (number 2))) :=
    ⟨by dsimp only [given, number]; rfl, .object (nested (fun _ => .string _) fun _ => .number _)⟩
  have rate : Gives (Json.compact (.object (given (number 1) .null)))
      (.object (given (number 1) .null)) :=
    ⟨by dsimp only [given, number]; rfl, .object (nested (fun _ => .number _) fun _ => .null)⟩
  have twice : Gives (Json.compact (.object (("marginPct", .null) :: given (number 1) (number 2))))
      (.object (("marginPct", .null) :: given (number 1) (number 2))) :=
    ⟨by dsimp only [given, number]; rfl, .object (List.forall_mem_cons.mpr ⟨.null, numbers⟩)⟩
  obtain ⟨-, -, -, cards⟩ := parse_fields (Json.compact (.object (given (number 1) (number 2))))
  have others := (cards _ gives).2
  refine ⟨(others _ _ margin).1 "marginPct" ?_, (others _ _ rate).2.1 "a" "inputPer1kUsd" ?_,
    (others _ _ twice).2.2 (.object fun key => ?_)⟩
  · rfl
  · rfl
  · have same : lastGiven? key (("marginPct", .null) :: given (number 1) (number 2)) =
        lastGiven? key (given (number 1) (number 2)) := by
      rw [lastGiven?, lastGiven?, List.reverse_cons, Entries.get?_append]
      by_cases again : "marginPct" = key
      · subst again
        rfl
      · rw [Entries.get?, if_neg again, Entries.get?_nil, Option.or_none]
    rw [same]
    exact Json.rel_agree_refl _

end RateCard

end Pricing

end CallMeter
