import CallMeter.Entries

/-!
# Metrics

What the service counts about itself: how many summaries ended in which way and how many
records they scanned. The exposition lists one line a value in ascending order, with a line for
the type of each metric; a described exposition adds a line of help and the version.

## Main definitions

* `Metrics`, `Metrics.scanned`, `Metrics.finished`: the counts and what adds to them
* `Metrics.render`: the exposition
-/

namespace CallMeter

/-- The version of the service. -/
def version : String := "0.1.0"

/-- **Metrics**. -/
structure Metrics where
  /-- The scans that succeeded. -/
  scans : Nat
  /-- The records of all scans. -/
  records : Nat
  /-- The summaries by outcome. -/
  outcomes : List (String × Nat)

namespace Metrics

/-- The metrics at the start. -/
def none : Metrics :=
  ⟨0, 0, []⟩

variable (m : Metrics)

/-- One more scan. -/
def scanned (records : Nat) : Metrics :=
  { m with scans := m.scans + 1, records := m.records + records }

/-- One more summary with an outcome. -/
def finished (outcome : String) : Metrics :=
  let count := (Entries.get? outcome m.outcomes).getD 0
  { m with outcomes := Entries.put outcome (count + 1) m.outcomes }

/-- A value with one label. -/
def labelled (name label value count : String) : String :=
  name ++ "\x7b" ++ label ++ "=\"" ++ value ++ "\"\x7d " ++ count

/-- The lines of the scans. -/
def scanLines (described : Bool) : List String :=
  if m.scans == 0 then []
  else
    (if described then ["# HELP usage_records_scanned Usage records read per summary computation"]
      else []) ++
    ["# TYPE usage_records_scanned summary",
      "usage_records_scanned_sum " ++ toString m.records,
      "usage_records_scanned_count " ++ toString m.scans]

/-- The lines of the outcomes. -/
def outcomeLines (described : Bool) : List String :=
  if m.outcomes.isEmpty then []
  else
    (if described then ["# HELP usage_summaries_total Usage summary computations by outcome"]
      else []) ++
    "# TYPE usage_summaries_total counter" ::
      m.outcomes.map fun (outcome, n) =>
        labelled "usage_summaries_total" "status" outcome (toString n)

/-- The lines of the version. -/
def versionLines : List String := [
  "# HELP usage_portal_info Usage portal version information",
  "# TYPE usage_portal_info gauge",
  labelled "usage_portal_info" "version" version "1"]

/-- **The exposition**: its lines in ascending order. -/
def render (described : Bool) : String :=
  let lines := m.scanLines described ++ m.outcomeLines described ++
    if described then versionLines else []
  "\n".intercalate (lines.mergeSort fun a b => a ≤ b)

end Metrics

end CallMeter
