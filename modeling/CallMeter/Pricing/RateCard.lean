import CallMeter.Text.Blank
import CallMeter.Text.Lowercase
import CallMeter.Text.Occurrence

/-!
# Rate cards

The prices of a voice channel: rates per minute and per turn, rates per thousand tokens for
language models, and a margin. The models keep their order. A hint written by hand finds the
first model whose key occurs in it, letter case aside.

## Main definitions

* `ModelRates`, `PricedModel`, `RateCard`: the prices
* `RateCard.findModel?`: the model that a hint names
* `RateCard.costliest?`: the model with the highest combined rate
* `RateCard.overlaps`: pairs of models that one hint may name

## Main results

* `costliest?_isSome`: there is a costliest model exactly when there are models
-/

namespace CallMeter.Pricing

/-- Rates of a language model per thousand tokens. -/
structure ModelRates where
  input : Float
  output : Float
  deriving DecidableEq

/-- Input and output rate together. -/
def ModelRates.combined (r : ModelRates) : Float :=
  r.input + r.output

/-- A model with the key it is listed under. -/
structure PricedModel where
  key : String
  rates : ModelRates
  deriving DecidableEq

/-- **Rate card**: the margin is a fraction from zero to one. -/
structure RateCard where
  margin : Float
  connectPerMinute : Float
  lexPerTurn : Float
  lambdaPerTurn : Float
  infraPerMinute : Float
  models : List PricedModel
  deriving DecidableEq

/-- The margin where none is given. -/
def defaultMargin : Float := 0.5

namespace RateCard

/-- The card without prices. -/
def default : RateCard :=
  ⟨defaultMargin, 0.0, 0.0, 0.0, 0.0, []⟩

variable (card : RateCard)

/-- A key names itself in a hint given in lower case. The empty key names nothing. -/
def named (hint : String) (m : PricedModel) : Bool :=
  !m.key.isEmpty && Text.contains hint (Text.lowercase m.key)

/-- **The model a hint names**: the first whose key occurs in it. -/
def findModel? (hint : Option String) : Option PricedModel :=
  match hint with
  | none => none
  | some text =>
    let lowered := Text.lowercase (Text.trim text)
    if lowered.isEmpty then none else card.models.find? (named lowered)

/-- The costlier of the best model so far and the next one; ties keep the earlier. -/
def costlier (best : Option PricedModel) (m : PricedModel) : Option PricedModel :=
  match best with
  | none => some m
  | some b => if b.rates.combined < m.rates.combined then some m else some b

/-- **The costliest model**: the first with the highest combined rate. -/
def costliest? : Option PricedModel :=
  card.models.foldl costlier none

/-- One of two keys occurs in the other, letter case aside. -/
def overlap (a b : PricedModel) : Bool :=
  let a := Text.lowercase a.key
  let b := Text.lowercase b.key
  Text.contains a b || Text.contains b a

/-- The pairs of keys of a list of models that overlap, each pair in list order. -/
def overlapsOf : List PricedModel → List (String × String)
  | [] => []
  | a :: r => (r.filter (overlap a)).map (fun b => (a.key, b.key)) ++ overlapsOf r

/-- **Overlaps**: pairs of models for which the order of the card decides some hint. -/
def overlaps : List (String × String) :=
  overlapsOf card.models

theorem costliest?_isSome : card.costliest?.isSome = !card.models.isEmpty := by
  have keep : ∀ (ms : List PricedModel) (b : PricedModel),
      (ms.foldl costlier (some b)).isSome = true := by
    intro ms
    induction ms with
    | nil => simp
    | cons m r ih => intro b; rw [List.foldl_cons, costlier]; split <;> exact ih _
  rw [costliest?]
  cases card.models with
  | nil => rfl
  | cons m r => exact keep r m

end RateCard

end CallMeter.Pricing
