import CallMeter.Decimal.Reader
import CallMeter.Json.Reader
import CallMeter.Text.Blank
import CallMeter.Text.Lowercase
import CallMeter.Time.Timestamp

/-!
# Call records

A record of one call as the voice channel stores it: a JSON object without schema. Each field is
read on its own and leniently, so that a bad field takes its default and never spoils the
record. Only a value that is no object is no record.

## Main definitions

* `CallRecord`, `CallRecord.ofItem?`: the record of a stored item
* `CallRecord.ofText?`: the record of an item stored as text
* `firstPresent`: the first candidate that is not blank
* `CallRecord.durationMs`: the length of the call

## Main results

* `ofItem?_isSome`: exactly the objects are records
-/

namespace CallMeter

/-- The first candidate that is there and not blank. -/
def firstPresent (candidates : List (Option String)) : Option String :=
  (candidates.filterMap id).find? fun s => !Text.isBlank s

/-- **Call record**. -/
structure CallRecord where
  tenant : Option String
  useCase : Option String
  startedAt : Option String
  endedAt : Option String
  lastUpdatedAt : Option String
  ended : Bool
  hasError : Bool
  turns : UInt64
  latencyMs : UInt64
  inputTokens : UInt64
  outputTokens : UInt64
  deriving DecidableEq

namespace Json

/-- A text field: a string that is not blank, kept as it is. -/
def asText : Option Json → Option String
  | some (.string s) => if Text.isBlank s then none else some s
  | _ => none

/-- A text field is there if it is given a string that is not blank. -/
theorem asText_eq_some {v : Option Json} {s : String} :
    asText v = some s ↔ v = some (.string s) ∧ Text.isBlank s = false := by
  constructor
  · intro h
    unfold asText at h
    split at h
    · next t =>
      cases hb : Text.isBlank t with
      | true => simp [hb] at h
      | false =>
        obtain rfl : t = s := by simpa [hb] using h
        exact ⟨rfl, hb⟩
    · cases h
  · rintro ⟨rfl, hb⟩
    simp [asText, hb]

/-- A flag: a boolean, one of the texts `true` and `1`, or a number other than zero. -/
def asFlag : Option Json → Bool
  | some (.bool b) => b
  | some (.string s) =>
    let t := Text.lowercaseAscii (Text.trim s)
    t == "true" || t == "1"
  | some (.number n) => n.toFloat != 0.0
  | _ => false

/-- The double that a number or a numeric text denotes. -/
def asDouble? : Option Json → Option Float
  | some (.number n) => some n.toFloat
  | some (.string s) => Decimal.readFloat? (Text.trim s)
  | _ => none

/-- A count: the whole part of a positive number, at most `2 ^ 64 - 1`, and zero for all else. -/
def asCount (v : Option Json) : UInt64 :=
  match asDouble? v with
  | some x => if x.isFinite && 0.0 < x then x.toUInt64 else 0
  | none => 0

end Json

namespace CallRecord

/-- The record with the given members. -/
def ofMembers (members : List (String × Json)) : CallRecord :=
  let member (key : String) := Entries.get? key members
  { tenant := Json.asText (member "tenantId")
    useCase := Json.asText (member "useCaseId")
    startedAt := Json.asText (member "startedAt")
    endedAt := Json.asText (member "endedAt")
    lastUpdatedAt := Json.asText (member "lastUpdatedAt")
    ended := Json.asFlag (member "ended")
    hasError := Json.asFlag (member "hasError")
    turns := Json.asCount (member "turnCount")
    latencyMs := Json.asCount (member "lastLatencyMs")
    inputTokens := Json.asCount (member "approxInputTokens")
    outputTokens := Json.asCount (member "approxOutputTokens") }

/-- **The record** of a stored item. -/
def ofItem? : Json → Option CallRecord
  | .object members => some (ofMembers members)
  | _ => none

/-- The record of an item stored as JSON text. -/
def ofText? (text : String) : Option CallRecord :=
  (Json.parse? text).bind ofItem?

theorem ofItem?_isSome (item : Json) : (ofItem? item).isSome = item.isObject := by
  cases item <;> rfl

variable (r : CallRecord)

/-- The time a call ended: its end, or its last update for a call that was cut off. -/
def resolvedEnd : Option String :=
  firstPresent [r.endedAt, r.lastUpdatedAt]

/-- **Length of the call** in whole milliseconds: zero when a timestamp is missing or
unreadable and when the end is not after the start. -/
def durationMs : UInt64 :=
  match r.startedAt.bind Time.Instant.parse?, r.resolvedEnd.bind Time.Instant.parse? with
  | some start, some finish => UInt64.ofNat (Time.Instant.elapsedMillis start finish).toNat
  | _, _ => 0

end CallRecord

end CallMeter
