import CallMeter.Decimal.Digits
import CallMeter.Time.Calendar

/-!
# Instants

An instant is a second counted from the start of 1970 in UTC and nanoseconds within it. A leap
second is written as its predecessor with a billion nanoseconds more.

## Main definitions

* `Instant`: seconds and nanoseconds
* `Instant.elapsedNanos`, `Instant.elapsedMillis`: the time from one instant to another
* `Instant.minusDays`: an instant some days of 24 hours earlier
* `Instant.toIso`: an instant as text with milliseconds
* `Instant.isClockTime`: an instant that the clock of a machine can show
-/

namespace CallMeter.Time

/-- **Instant**: seconds since the start of 1970 in UTC, and nanoseconds, a billion or more of
them in a leap second. -/
structure Instant where
  seconds : Int
  nanos : Nat
  deriving DecidableEq

namespace Instant

/-- The number of the day. -/
def day (t : Instant) : Int :=
  t.seconds / 86400

/-- The second of the day. -/
def secondOfDay (t : Instant) : Int :=
  t.seconds % 86400

/-- The instant lies in a leap second. -/
def isLeapSecond (t : Instant) : Bool :=
  1000000000 ≤ t.nanos

/-- **Elapsed time** from `start` to `finish` in nanoseconds. A leap second counts when it lies
between the two times of day. -/
def elapsedNanos (start finish : Instant) : Int :=
  let s := finish.secondOfDay - start.secondOfDay
  -- only the times of day decide whether the extra second lies in between
  let leap :=
    if 0 < s && start.isLeapSecond then 1
    else if s < 0 && finish.isLeapSecond then -1
    else 0
  ((finish.day - start.day) * 86400 + s + leap) * 1000000000 + ((finish.nanos : Int) - start.nanos)

/-- Elapsed time in milliseconds, toward zero. -/
def elapsedMillis (start finish : Instant) : Int :=
  (elapsedNanos start finish).tdiv 1000000

/-- The instant `days` times 24 hours earlier. A leap second is left as the second after it. -/
def minusDays (t : Instant) (days : Nat) : Instant :=
  if t.isLeapSecond && 0 < days then
    ⟨t.seconds + 1 - days * 86400, t.nanos - 1000000000⟩
  else ⟨t.seconds - days * 86400, t.nanos⟩

/-- The first second after the last year of the calendar. -/
def calendarEnd : Int := 8210266876800

/-- **The clock of a machine** counts from 1970 to the end of the calendar and shows no leap
second. -/
def isClockTime (t : Instant) : Bool :=
  0 ≤ t.seconds && t.seconds < calendarEnd && !t.isLeapSecond

/-- A year as text: four digits, with a sign and as many digits as it takes outside of them. -/
def yearText (year : Int) : List Char :=
  if 0 ≤ year && year ≤ 9999 then Decimal.padded 4 year.toNat
  else (if year < 0 then '-' else '+') :: Decimal.padded 4 year.natAbs

/-- **ISO text** in UTC with milliseconds, such as `2024-05-01T12:00:00.000Z`. A leap second is
written as second 60. -/
def toIso (t : Instant) : String :=
  let date := Date.ofDays t.day
  let second := t.secondOfDay.toNat
  let (leap, nanos) := if t.isLeapSecond then (1, t.nanos - 1000000000) else (0, t.nanos)
  String.ofList <|
    yearText date.year ++ '-' :: Decimal.padded 2 date.month ++
      '-' :: Decimal.padded 2 date.day ++ 'T' :: Decimal.padded 2 (second / 3600) ++
      ':' :: Decimal.padded 2 (second / 60 % 60) ++ ':' :: Decimal.padded 2 (second % 60 + leap) ++
      '.' :: Decimal.padded 3 (nanos / 1000000) ++ ['Z']

end Instant

end CallMeter.Time
