import CallMeter.Proofs.Usage.RowOrder
import CallMeter.Usage.SummaryJson

/-!
# The document of a summary

A summary is answered as a document. A caller who knows the keys reads the summary back from it:
each figure under its own key, and the rows one by one in their order. Nothing else stands in it,
and what is null says that there is no value.

## Main definitions

* `Json.keys`, `Json.counter?`, `Json.double?`, `Json.nullable?`: the members of an object
* `Summary.read?`: the summary that a document tells
* `Summary.Reports`: a summary of some records

## Main results

* `Summary.read?_toJson`: the document of a summary tells all of it
* `Summary.reports_ofRecords`: the summary of the usage of records is of these records
-/

namespace CallMeter

open Pricing (RateCard)

/-! ## Members -/

namespace Json

variable (doc : Json) (key : String)

/-- The keys of an object, in order. -/
def keys : List String :=
  match doc with
  | object members => members.map Prod.fst
  | _ => []

/-- The counter under a key. -/
def counter? : Option UInt64 :=
  match doc.field? key with
  | some (.number (.natural n)) => some n
  | _ => none

/-- The double under a key. -/
def double? : Option Float :=
  match doc.field? key with
  | some (.number (.double x)) => some x
  | _ => none

/-- The string under a key. -/
def string? : Option String :=
  (doc.field? key).bind text?

/-- The items of the array under a key. -/
def array? : Option (List Json) :=
  match doc.field? key with
  | some (.array items) => some items
  | _ => none

/-- What is read under a key, or that there is no value. -/
def nullable? {α : Type} (read : Json → String → Option α) : Option (Option α) :=
  match doc.field? key with
  | some .null => some none
  | _ => (read doc key).map some

end Json

/-! ## Reading -/

/-- The estimate that a document tells. -/
def Pricing.Estimate.read? (doc : Json) : Option Pricing.Estimate := do
  guard (doc.keys = ["ratePerMinuteUsd", "estimatedCostUsd", "marginPct", "components"])
  let parts ← doc.field? "components"
  guard (parts.keys = ["connectPerMinuteUsd", "infraPerMinuteUsd", "lexPerTurnUsd",
    "lambdaPerTurnUsd", "turnsPerMin", "inTokPerMin", "outTokPerMin", "llmCostPerMin",
    "variableCostPerMin", "pricingModel"])
  return {
    ratePerMinute := ← doc.nullable? "ratePerMinuteUsd" Json.double?
    cost := ← doc.nullable? "estimatedCostUsd" Json.double?
    margin := ← doc.double? "marginPct"
    connectPerMinute := ← parts.double? "connectPerMinuteUsd"
    infraPerMinute := ← parts.double? "infraPerMinuteUsd"
    lexPerTurn := ← parts.double? "lexPerTurnUsd"
    lambdaPerTurn := ← parts.double? "lambdaPerTurnUsd"
    turnsPerMinute := ← parts.double? "turnsPerMin"
    inputTokensPerMinute := ← parts.double? "inTokPerMin"
    outputTokensPerMinute := ← parts.double? "outTokPerMin"
    llmCostPerMinute := ← parts.double? "llmCostPerMin"
    variableCostPerMinute := ← parts.double? "variableCostPerMin"
    model := ← parts.nullable? "pricingModel" Json.string? }

/-- The figures that the document of a row or of the totals tells. -/
def Figures.read? (doc metering : Json) : Option Figures := do
  return {
    calls := ← doc.counter? "calls"
    endedCalls := ← doc.counter? "endedCalls"
    errorCalls := ← doc.counter? "errorCalls"
    totalSeconds := ← doc.counter? "totalDurationSec"
    averageSeconds := ← doc.counter? "avgDurationSec"
    averageTurns := ← doc.counter? "avgTurns"
    averageLatencyMs := ← doc.counter? "avgLatencyMs"
    lastCallAt := ← doc.nullable? "lastCallAt" Json.string?
    billableMinutes := ← metering.counter? "billableMinutes"
    inputTokens := ← metering.counter? "approxInputTokens"
    outputTokens := ← metering.counter? "approxOutputTokens"
    estimate := ← (doc.field? "pricing").bind Pricing.Estimate.read? }

/-- The row that a document tells. -/
def UseCaseRow.read? (doc : Json) : Option UseCaseRow := do
  guard (doc.keys = ["useCaseId", "useCaseName", "calls", "endedCalls", "errorCalls",
    "totalDurationSec", "avgDurationSec", "avgTurns", "avgLatencyMs", "lastCallAt", "metering",
    "pricing"])
  let metering ← doc.field? "metering"
  guard (metering.keys = ["billableMinutes", "approxInputTokens", "approxOutputTokens",
    "modelHint"])
  return {
    useCase := ← doc.string? "useCaseId"
    name := ← doc.string? "useCaseName"
    modelHint := ← metering.nullable? "modelHint" Json.string?
    figures := ← Figures.read? doc metering }

/-- The totals that a document tells. -/
def Totals.read? (doc : Json) : Option Totals := do
  guard (doc.keys = ["calls", "endedCalls", "errorCalls", "totalDurationSec",
    "totalDurationMinutes", "avgDurationSec", "avgTurns", "avgLatencyMs", "lastCallAt", "metering",
    "pricing"])
  let metering ← doc.field? "metering"
  guard (metering.keys = ["billableMinutes", "approxInputTokens", "approxOutputTokens"])
  return {
    minutes := ← doc.double? "totalDurationMinutes"
    figures := ← Figures.read? doc metering }

/-- The window that a document tells. -/
def Window.read? (doc : Json) : Option Window := do
  guard (doc.keys = ["days", "startIso", "endIso"])
  return {
    days := (← doc.counter? "days").toNat
    startIso := ← doc.string? "startIso"
    endIso := ← doc.string? "endIso" }

/-- **The summary that a document tells**, the rows in the order of the document. -/
def Summary.read? (doc : Json) : Option Summary := do
  guard (doc.keys = ["tenantId", "range", "totals", "byUseCase"])
  return {
    tenant := ← doc.string? "tenantId"
    window := ← (doc.field? "range").bind Window.read?
    totals := ← (doc.field? "totals").bind Totals.read?
    rows := ← (← doc.array? "byUseCase").mapM UseCaseRow.read? }

/-! ## What the documents tell -/

theorem Pricing.Estimate.read?_toJson (e : Pricing.Estimate) : read? e.toJson = some e := by
  obtain ⟨rate, cost, _, _, _, _, _, _, _, _, _, _, model⟩ := e
  cases rate <;> cases cost <;> cases model <;> rfl

theorem UseCaseRow.read?_toJson (row : UseCaseRow) : read? row.toJson = some row := by
  have estimate : (row.toJson.field? "pricing").bind Pricing.Estimate.read? =
      some row.figures.estimate := row.figures.estimate.read?_toJson
  simp only [read?, Figures.read?, estimate]
  obtain ⟨id, name, hint, ⟨_, _, _, _, _, _, _, last, _, _, _, e⟩⟩ := row
  cases hint <;> cases last <;> rfl

theorem Totals.read?_toJson (totals : Totals) : read? totals.toJson = some totals := by
  have estimate : (totals.toJson.field? "pricing").bind Pricing.Estimate.read? =
      some totals.figures.estimate := totals.figures.estimate.read?_toJson
  simp only [read?, Figures.read?, estimate]
  obtain ⟨_, ⟨_, _, _, _, _, _, _, last, _, _, _, e⟩⟩ := totals
  cases last <;> rfl

theorem Window.read?_toJson {w : Window} (few : w.days < 2 ^ 64) : read? w.toJson = some w := by
  have days : (UInt64.ofNat w.days).toNat = w.days := UInt64.toNat_ofNat_of_lt' few
  show some (⟨(UInt64.ofNat w.days).toNat, w.startIso, w.endIso⟩ : Window) = some w
  rw [days]

/-- The rows are read one by one. -/
theorem mapM_read?_toJson (rows : List UseCaseRow) :
    (rows.map UseCaseRow.toJson).mapM UseCaseRow.read? = some rows := by
  induction rows with
  | nil => rfl
  | cons row rest ih =>
    rw [List.map_cons, List.mapM_cons, row.read?_toJson, ih]
    rfl

/-- **The document of a summary tells all of it.** -/
theorem Summary.read?_toJson {s : Summary} (few : s.window.days < 2 ^ 64) :
    read? s.toJson = some s := by
  have window : (s.toJson.field? "range").bind Window.read? = some s.window :=
    Window.read?_toJson few
  have totals : (s.toJson.field? "totals").bind Totals.read? = some s.totals :=
    s.totals.read?_toJson
  have rows : s.toJson.array? "byUseCase" = some (s.rows.map UseCaseRow.toJson) := rfl
  simp only [read?, window, totals, rows]
  show (do return (⟨s.tenant, s.window, s.totals, ← (s.rows.map UseCaseRow.toJson).mapM
    UseCaseRow.read?⟩ : Summary)) = some s
  rw [mapM_read?_toJson]
  rfl

/-! ## What a summary is of -/

/-- **A summary of some records**: its totals show the tally of all that count, and its rows those
of the use cases with records, each once and strictly in order. -/
structure Summary.Reports (tenant : String) (window : Window) (records : List CallRecord)
    (profiles : List (String × Profile)) (card : RateCard) (s : Summary) : Prop where
  tenant : s.tenant = tenant
  window : s.window = window
  totals : s.totals.Shows card (.ofCalls (Usage.counted records))
  one_each : ∀ id, Usage.callsOf id records ≠ [] →
    ∃ row, (s.rows.filter fun row => row.useCase = id) = [row] ∧
      row.Shows profiles card id (.ofCalls (Usage.callsOf id records))
  known : ∀ row ∈ s.rows, Usage.callsOf row.useCase records ≠ []
  sorted : s.rows.Pairwise UseCaseRow.Before

/-- **The summary of the usage of records** is of these records. -/
theorem Summary.reports_ofRecords (tenant : String) (window : Window) (records : List CallRecord)
    (profiles : List (String × Profile)) (card : RateCard) :
    (build tenant window (.ofRecords records) profiles card).Reports tenant window records profiles
      card := by
  have canonical :=
    canonicalRows_build (Usage.nodup_useCases records) tenant window profiles card
  refine ⟨rfl, rfl, ?_, fun id calls => ?_, fun row hrow => ?_, canonical.sorted⟩
  · rw [← Usage.total_ofRecords]
    exact Totals.shows_ofTally card _
  · exact canonical.one_each id _ (Usage.mem_byUseCase_ofRecords.mpr ⟨calls, rfl⟩)
  · exact Usage.mem_useCases.mp (canonical.known row hrow)

end CallMeter
