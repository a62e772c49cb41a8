import CallMeter.Counter
import CallMeter.Decimal.Dyadic
import CallMeter.Record

/-!
# Tallies

Running sums over call records, one for each use case and one for all of them. Calls are
counted; turns, latencies, durations and tokens are summed up to the largest counter; the last
call is the greatest start in the order of texts. Records without a use case do not count.

## Main definitions

* `Tally`, `Tally.record`: the sums and the effect of one record
* `Tally.totalSeconds`, `Tally.averageSeconds`, `Tally.averageTurns`, `Tally.averageLatencyMs`:
  the figures shown
* `Usage`, `Usage.ofRecords`: the tallies of a list of records
-/

namespace CallMeter

/-- **Tally**: running sums over the calls of one use case, or over all calls. -/
structure Tally where
  calls : UInt64
  endedCalls : UInt64
  errorCalls : UInt64
  turns : UInt64
  latencyMs : UInt64
  durationMs : UInt64
  inputTokens : UInt64
  outputTokens : UInt64
  /-- The greatest start of a call. -/
  lastCallAt : Option String
  deriving DecidableEq

/-- The later of the last call so far and a start. -/
def latest (last start : Option String) : Option String :=
  match last, start with
  | last, none => last
  | none, some s => some s
  | some l, some s => if l < s then some s else some l

namespace Tally

/-- The tally of no calls. -/
def empty : Tally :=
  ⟨0, 0, 0, 0, 0, 0, 0, 0, none⟩

variable (t : Tally) (r : CallRecord)

/-- **One more call**. -/
def record : Tally where
  calls := t.calls + 1
  endedCalls := if r.ended then t.endedCalls + 1 else t.endedCalls
  errorCalls := if r.hasError then t.errorCalls + 1 else t.errorCalls
  turns := Counter.add t.turns r.turns
  latencyMs := Counter.add t.latencyMs r.latencyMs
  durationMs := Counter.add t.durationMs r.durationMs
  inputTokens := Counter.add t.inputTokens r.inputTokens
  outputTokens := Counter.add t.outputTokens r.outputTokens
  lastCallAt := latest t.lastCallAt r.startedAt

/-- A sum over the number of calls, rounded with a half going up, and zero without calls. -/
def average (sum : Float) (calls : UInt64) : UInt64 :=
  if calls == 0 then 0 else Counter.ofNat (Decimal.nearest (sum / calls.toFloat))

/-- The summed duration in seconds, rounded. -/
def totalSeconds : UInt64 :=
  Counter.add t.durationMs 500 / 1000

/-- The mean duration in seconds. -/
def averageSeconds : UInt64 :=
  average (t.durationMs.toFloat / 1000.0) t.calls

/-- The mean number of turns. -/
def averageTurns : UInt64 :=
  average t.turns.toFloat t.calls

/-- The mean latency in milliseconds. -/
def averageLatencyMs : UInt64 :=
  average t.latencyMs.toFloat t.calls

end Tally

/-- **Usage**: a tally for each use case, each use case once, and the tally of all calls. -/
structure Usage where
  byUseCase : List (String × Tally)
  total : Tally

namespace Usage

/-- The usage of no calls. -/
def empty : Usage :=
  ⟨[], .empty⟩

/-- The tally of a use case. -/
def tally? (u : Usage) (useCase : String) : Option Tally :=
  Entries.get? useCase u.byUseCase

/-- One more record. -/
def record (u : Usage) (r : CallRecord) : Usage :=
  match r.useCase with
  | none => u
  | some id =>
    { byUseCase := Entries.put id (((u.tally? id).getD .empty).record r) u.byUseCase
      total := u.total.record r }

/-- **The usage** of a list of records. -/
def ofRecords (records : List CallRecord) : Usage :=
  records.foldl record empty

end Usage

end CallMeter
