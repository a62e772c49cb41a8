import CallMeter.Decimal.Reader
import CallMeter.Text.Blank
import CallMeter.Time.Instant

/-!
# Usage windows

A window covers whole days up to an instant and is written as two ISO texts. The number of days
comes from a caller as free text and is never refused: it is cut to a whole number and kept
between one and ninety.

## Main definitions

* `clampDays`, `clampDaysText`: the number of days, from a number and from a text
* `Window`, `Window.endingAt`: the window of some days up to an instant
* `Window.endingNow`: the window up to the time of the clock

## Main results

* `clampDays_bounds`, `clampDaysText_bounds`: the number of days lies between one and ninety
* `clampDays_of_bounds`: a number of days between them stays as it is
* `clampDays_mono`: more days stay more
-/

namespace CallMeter

/-- The days of a window when none are given. -/
def defaultDays : Nat := 7

/-- The fewest days of a window. -/
def minDays : Nat := 1

/-- The most days of a window. -/
def maxDays : Nat := 90

/-- A number of days kept between the fewest and the most. -/
def clampDays (days : Int) : Nat :=
  (max (minDays : Int) (min (maxDays : Int) days)).toNat

theorem clampDays_bounds (days : Int) : minDays ≤ clampDays days ∧ clampDays days ≤ maxDays := by
  simp only [clampDays, minDays, maxDays]; omega

theorem clampDays_of_bounds {days : Nat} (h : minDays ≤ days ∧ days ≤ maxDays) :
    clampDays days = days := by
  simp only [clampDays, minDays, maxDays] at *
  omega

theorem clampDays_mono {days days' : Int} (h : days ≤ days') :
    clampDays days ≤ clampDays days' := by
  simp only [clampDays, minDays, maxDays]
  omega

/-- **The days a caller asks for**: seven when absent or blank, the whole part of a number kept
in bounds, and one for anything else. -/
def clampDaysText (raw : Option String) : Nat :=
  match (raw.map Text.trim).filter fun s => !s.isEmpty with
  | none => defaultDays
  | some text =>
    match Decimal.readFloat? text with
    | some x =>
      -- infinities come from numbers too large to hold and from their names
      if x.isFinite then (if x < 1.0 then minDays else clampDays x.toUInt64.toNat) else minDays
    | none => minDays

theorem clampDaysText_bounds (raw : Option String) :
    minDays ≤ clampDaysText raw ∧ clampDaysText raw ≤ maxDays := by
  have fewest : minDays ≤ minDays ∧ minDays ≤ maxDays := by decide
  rw [clampDaysText]
  split
  · decide
  · split
    · split
      · split
        · exact fewest
        · exact clampDays_bounds _
      · exact fewest
    · exact fewest

/-- **Window**: a number of days and its two ends as texts. -/
structure Window where
  days : Nat
  startIso : String
  endIso : String
  deriving DecidableEq

/-- The first year in which a window may start. -/
def firstYear : Int := -262143

/-- The window of `days` days of 24 hours up to `now`, unless it starts before the first year. -/
def Window.endingAt (now : Time.Instant) (days : Nat) : Option Window :=
  let start := now.minusDays days
  if (Time.Date.ofDays start.day).year < firstYear then none
  else some ⟨days, start.toIso, now.toIso⟩

/-- The window of `days` days up to the time of a clock, if a clock can show it. -/
def Window.endingNow (clock : Time.Instant) (days : Nat) : Option Window :=
  if clock.isClockTime then endingAt clock days else none

end CallMeter
