import CallMeter.Pricing.RateCard
import CallMeter.Record

/-!
# Reading rate cards

A rate card is a JSON object. Each field is read on its own: a field that is missing or does not
denote a finite number takes its default and affects no other. The margin is kept between zero
and one, rates are not negative. Models that are no objects are left out.

## Main definitions

* `clampMargin`: a margin between zero and one
* `RateCard.parse`: the rate card of a text
* `PriceSource`, `PriceSource.load`: where the text comes from
-/

namespace CallMeter.Pricing

/-- A margin kept between zero and one; what is no number is the default margin. -/
def clampMargin (x : Float) : Float :=
  if x.isNaN then defaultMargin
  else if x < 0.0 then 0.0
  else if 1.0 < x then 1.0
  else x

/-- The finite number under a key. -/
def finite? (key : String) (members : List (String × Json)) : Option Float :=
  (Json.asDouble? (Entries.get? key members)).filter Float.isFinite

/-- The rate under a key: zero where there is none above zero. -/
def rate (key : String) (members : List (String × Json)) : Float :=
  match finite? key members with
  | some x => if 0.0 < x then x else 0.0
  | none => 0.0

/-- The model of a member of the models object. -/
def readModel? : String × Json → Option PricedModel
  | (key, .object rates) => some ⟨key, rate "inputPer1kUsd" rates, rate "outputPer1kUsd" rates⟩
  | _ => none

/-- The models of a rate card. -/
def readModels : Option Json → List PricedModel
  | some (.object models) => models.filterMap readModel?
  | _ => []

/-- The rate card with the given members. -/
def RateCard.ofMembers (members : List (String × Json)) : RateCard where
  margin := clampMargin ((finite? "marginPct" members).getD defaultMargin)
  connectPerMinute := rate "connectPerMinuteUsd" members
  lexPerTurn := rate "lexPerTurnUsd" members
  lambdaPerTurn := rate "lambdaPerTurnUsd" members
  infraPerMinute := rate "infraPerMinuteUsd" members
  models := readModels (Entries.get? "models" members)

/-- **Reading** a rate card; a text that is no JSON object is the card without prices. -/
def RateCard.parse (text : String) : RateCard :=
  match Json.parse? text with
  | some (.object members) => .ofMembers members
  | _ => .default

/-- **Price source**: text given directly, or the path of a file. -/
structure PriceSource where
  inline : Option String
  path : Option String
  deriving DecidableEq

/-- No prices are configured. -/
def PriceSource.absent : PriceSource :=
  ⟨none, none⟩

/-- The rate card of a source. Text given directly comes before a file, and a file that cannot
be read is the card without prices. -/
def PriceSource.load {m : Type → Type} [Monad m] (readFile : String → m (Option String))
    (source : PriceSource) : m RateCard :=
  match source.inline, source.path with
  | some text, _ => pure (.parse text)
  | none, some path => do
    match ← readFile path with
    | some text => pure (.parse text)
    | none => pure .default
  | none, none => pure .default

end CallMeter.Pricing
