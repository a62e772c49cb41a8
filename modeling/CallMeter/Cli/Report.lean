import CallMeter.Cli.Grid
import CallMeter.Decimal.Layout
import CallMeter.Settings.Basic
import CallMeter.Usage.Summary

/-!
# Reports

What the commands print: the usage of a tenant as a table, and the settings with the rate card.

## Main definitions

* `usageReport`: the table of a summary
* `settingsReport`: the settings and prices
-/

namespace CallMeter.Cli

open Pricing (RateCard PriceSource)

/-- The most characters of a name in a table. -/
def maxNameLength : Nat := 28

/-- A name cut to what fits. -/
def shorten (name : String) : String :=
  let cs := name.toList
  if maxNameLength < cs.length then String.ofList (cs.take (maxNameLength - 3)) ++ "..." else name

/-- An amount with four places, where it is known. -/
def amount : Option Float → String
  | some x => "$" ++ Decimal.renderFixed 4 x
  | none => "n/a"

/-- A counter in digits. -/
def count (n : UInt64) : String :=
  Decimal.text n.toNat

/-- The cells of a row after its names. -/
def figureCells (f : Figures) : List String := [
  count f.calls, count f.endedCalls, count f.errorCalls, count f.totalSeconds,
  count f.billableMinutes, f.estimate.model.getD "-", amount f.estimate.ratePerMinute,
  amount f.estimate.cost]

/-- The heads of the columns. -/
def heads : List String := [
  "USE CASE", "NAME", "CALLS", "ENDED", "ERRORS", "DURATION (s)", "BILLABLE MIN", "MODEL",
  "RATE / MIN", "EST. COST"]

/-- Lines, each with its end. -/
def lines (ls : List String) : String :=
  String.join (ls.map fun l => l ++ "\n")

/-- **The usage of a tenant**. -/
def usageReport (s : Summary) : String :=
  let w := s.window
  let title := "Usage for tenant " ++ s.tenant ++ " (" ++ toString w.days ++ " days: " ++
    w.startIso ++ " → " ++ w.endIso ++ ")"
  if s.rows.isEmpty then lines [title, "", "No calls in this window."]
  else
    let rows := s.rows.map fun r => shorten r.useCase :: shorten r.name :: figureCells r.figures
    let t := s.totals.figures
    let averages := "Avg duration: " ++ count t.averageSeconds ++ "s | Avg turns: " ++
      count t.averageTurns ++ " | Avg latency: " ++ count t.averageLatencyMs ++
      "ms | Last call: " ++ t.lastCallAt.getD "-"
    lines [title, "", Grid.render heads (rows ++ ["TOTAL" :: "" :: figureCells t]), "", averages]

/-- Where the prices come from. -/
def sourceName (source : PriceSource) : String :=
  match source.inline, source.path with
  | some _, _ => "inline JSON"
  | none, some path => path
  | none, none => "defaults"

/-- A price. -/
def price (x : Float) : String :=
  "$" ++ Decimal.Layout.positionalOnly.render x

/-- The lines of the models of a rate card. -/
def modelLines (card : RateCard) : List String :=
  if card.models.isEmpty then ["    Models: none"]
  else
    ("    Models: " ++ toString card.models.length) ::
      card.models.map fun m =>
        "      " ++ m.key ++ " → in " ++ price m.rates.input ++ "/1k, out " ++
          price m.rates.output ++ "/1k"

/-- The lines of overlapping models. -/
def overlapLines (card : RateCard) : List String :=
  card.overlaps.map fun (a, b) =>
    "    ⚠ model keys '" ++ a ++ "' and '" ++ b ++ "' overlap; '" ++ a ++
      "' wins for hints containing both"

/-- **The settings and prices**. -/
def settingsReport (s : Settings) (card : RateCard) : String :=
  lines ([
    "✓ Configuration test successful",
    "",
    "Configuration Summary:",
    "  Server: " ++ s.server.host ++ ":" ++ toString s.server.port.toNat,
    "  Log Level: " ++ s.server.logLevel,
    "  Log Format: " ++ s.server.logFormat,
    "  Storage: " ++ s.storage.databaseUrl.getD "",
    "  Page Size: " ++ toString s.storage.pageSize.toNat,
    "",
    "Pricing: (" ++ sourceName s.prices ++ ")",
    "    Margin: " ++ Decimal.renderFixed 0 (card.margin * 100.0) ++ "%",
    "    Connect: " ++ price card.connectPerMinute ++ "/min",
    "    Infra: " ++ price card.infraPerMinute ++ "/min",
    "    Lex: " ++ price card.lexPerTurn ++ "/turn",
    "    Lambda: " ++ price card.lambdaPerTurn ++ "/turn"] ++
    modelLines card ++ overlapLines card)

end CallMeter.Cli
