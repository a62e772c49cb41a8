import CallMeter.Json.Printer
import CallMeter.Usage.Summary

/-!
# Summaries as JSON

## Main definitions

* `Estimate.toJson`, `Summary.toJson`: an estimate and a summary as JSON values, members in the
  order in which they are written
-/

namespace CallMeter

/-- **An estimate** as JSON. -/
def Pricing.Estimate.toJson (e : Pricing.Estimate) : Json :=
  .object [
    ("ratePerMinuteUsd", .ofOption .ofDouble e.ratePerMinute),
    ("estimatedCostUsd", .ofOption .ofDouble e.cost),
    ("marginPct", .ofDouble e.margin),
    ("components", .object [
      ("connectPerMinuteUsd", .ofDouble e.connectPerMinute),
      ("infraPerMinuteUsd", .ofDouble e.infraPerMinute),
      ("lexPerTurnUsd", .ofDouble e.lexPerTurn),
      ("lambdaPerTurnUsd", .ofDouble e.lambdaPerTurn),
      ("turnsPerMin", .ofDouble e.turnsPerMinute),
      ("inTokPerMin", .ofDouble e.inputTokensPerMinute),
      ("outTokPerMin", .ofDouble e.outputTokensPerMinute),
      ("llmCostPerMin", .ofDouble e.llmCostPerMinute),
      ("variableCostPerMin", .ofDouble e.variableCostPerMinute),
      ("pricingModel", .ofOption .string e.model)])]

/-- The metered figures, with further members at the end. -/
def Figures.meteringJson (f : Figures) (more : List (String × Json)) : Json :=
  .object ([
    ("billableMinutes", .ofCounter f.billableMinutes),
    ("approxInputTokens", .ofCounter f.inputTokens),
    ("approxOutputTokens", .ofCounter f.outputTokens)] ++ more)

/-- The numbers of calls and the summed duration. -/
def Figures.countMembers (f : Figures) : List (String × Json) := [
  ("calls", .ofCounter f.calls),
  ("endedCalls", .ofCounter f.endedCalls),
  ("errorCalls", .ofCounter f.errorCalls),
  ("totalDurationSec", .ofCounter f.totalSeconds)]

/-- The averages and the last call. -/
def Figures.averageMembers (f : Figures) : List (String × Json) := [
  ("avgDurationSec", .ofCounter f.averageSeconds),
  ("avgTurns", .ofCounter f.averageTurns),
  ("avgLatencyMs", .ofCounter f.averageLatencyMs),
  ("lastCallAt", .ofOption .string f.lastCallAt)]

/-- A row as JSON. -/
def UseCaseRow.toJson (r : UseCaseRow) : Json :=
  .object ([("useCaseId", .string r.useCase), ("useCaseName", .string r.name)] ++
    r.figures.countMembers ++ r.figures.averageMembers ++
    [("metering", r.figures.meteringJson [("modelHint", .ofOption .string r.modelHint)]),
      ("pricing", r.figures.estimate.toJson)])

/-- The totals as JSON. -/
def Totals.toJson (t : Totals) : Json :=
  .object (t.figures.countMembers ++ [("totalDurationMinutes", .ofDouble t.minutes)] ++
    t.figures.averageMembers ++
    [("metering", t.figures.meteringJson []), ("pricing", t.figures.estimate.toJson)])

/-- A window as JSON. -/
def Window.toJson (w : Window) : Json :=
  .object [
    ("days", .ofCounter (UInt64.ofNat w.days)),
    ("startIso", .string w.startIso),
    ("endIso", .string w.endIso)]

/-- **A summary** as JSON. -/
def Summary.toJson (s : Summary) : Json :=
  .object [
    ("tenantId", .string s.tenant),
    ("range", s.window.toJson),
    ("totals", s.totals.toJson),
    ("byUseCase", .array (s.rows.map UseCaseRow.toJson))]

end CallMeter
