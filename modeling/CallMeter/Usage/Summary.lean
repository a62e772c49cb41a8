import CallMeter.Pricing.Estimate
import CallMeter.Store.Profile
import CallMeter.Usage.Window

/-!
# Usage summaries

The answer to a request: the figures of each use case and of all calls of a tenant in a window.
Rows are ordered by their number of calls, most first, and by id. A row is priced with the model
that the hint of its use case names; the totals may span several models and are priced with the
costliest one.

## Main definitions

* `Figures`, `Figures.ofTally`: what is shown of a tally
* `UseCaseRow`, `Totals`, `Summary`: the parts of an answer
* `Summary.build`: the answer from usage, profiles and prices

## Main results

* `rows_perm`: there is one row for each use case
-/

namespace CallMeter

open Pricing (RateCard PricedModel Estimate Metered)

/-- **Figures** of a tally. -/
structure Figures where
  calls : UInt64
  endedCalls : UInt64
  errorCalls : UInt64
  totalSeconds : UInt64
  averageSeconds : UInt64
  averageTurns : UInt64
  averageLatencyMs : UInt64
  lastCallAt : Option String
  billableMinutes : UInt64
  inputTokens : UInt64
  outputTokens : UInt64
  estimate : Estimate
  deriving DecidableEq

/-- The figures of a tally, priced with a model. -/
def Figures.ofTally (t : Tally) (card : RateCard) (model : Option PricedModel) : Figures where
  calls := t.calls
  endedCalls := t.endedCalls
  errorCalls := t.errorCalls
  totalSeconds := t.totalSeconds
  averageSeconds := t.averageSeconds
  averageTurns := t.averageTurns
  averageLatencyMs := t.averageLatencyMs
  lastCallAt := t.lastCallAt
  billableMinutes := Pricing.billableMinutes t.calls t.durationMs
  inputTokens := t.inputTokens
  outputTokens := t.outputTokens
  estimate := Pricing.estimate (.ofTally t) card model

/-- The row of a use case. -/
structure UseCaseRow where
  useCase : String
  name : String
  modelHint : Option String
  figures : Figures
  deriving DecidableEq

/-- The figures of all calls, with the summed duration in minutes. -/
structure Totals where
  minutes : Float
  figures : Figures
  deriving DecidableEq

/-- **Summary**: the answer for a tenant and a window. -/
structure Summary where
  tenant : String
  window : Window
  totals : Totals
  rows : List UseCaseRow
  deriving DecidableEq

/-- Seconds as minutes with two decimals. -/
def minutesOfSeconds (seconds : UInt64) : Float :=
  Float.ofNat (Decimal.nearest (seconds.toFloat / 60.0 * 100.0)) / 100.0

/-- The row of a use case with its tally. -/
def UseCaseRow.ofTally (card : RateCard) (profile : Profile) (useCase : String) (t : Tally) :
    UseCaseRow where
  useCase := useCase
  name := profile.displayName
  modelHint := profile.modelHint
  figures := .ofTally t card (card.findModel? profile.modelHint)

/-- The totals of a tally. -/
def Totals.ofTally (card : RateCard) (t : Tally) : Totals where
  minutes := minutesOfSeconds t.totalSeconds
  figures := .ofTally t card card.costliest?

/-- A row stands before another: it has more calls, or as many and the smaller id. -/
def UseCaseRow.precedes (a b : UseCaseRow) : Bool :=
  b.figures.calls < a.figures.calls ||
    (a.figures.calls == b.figures.calls && a.useCase ≤ b.useCase)

namespace Summary

/-- The rows of usage, unordered. A use case without a profile goes by its id. -/
def rowsOf (usage : Usage) (profiles : List (String × Profile)) (card : RateCard) :
    List UseCaseRow :=
  usage.byUseCase.map fun (id, t) =>
    .ofTally card ((Entries.get? id profiles).getD (.unknown id)) id t

/-- **The summary** of usage, with the profiles of its use cases and a rate card. -/
def build (tenant : String) (window : Window) (usage : Usage)
    (profiles : List (String × Profile)) (card : RateCard) : Summary where
  tenant := tenant
  window := window
  -- no single hint speaks for all use cases
  totals := .ofTally card usage.total
  rows := (rowsOf usage profiles card).mergeSort UseCaseRow.precedes

theorem rows_perm (tenant : String) (window : Window) (usage : Usage)
    (profiles : List (String × Profile)) (card : RateCard) :
    ((build tenant window usage profiles card).rows.map UseCaseRow.useCase).Perm
      (usage.byUseCase.map Prod.fst) := by
  refine ((List.mergeSort_perm _ _).map _).trans (.of_eq ?_)
  simp [rowsOf, UseCaseRow.ofTally, Function.comp_def]

end Summary

end CallMeter
