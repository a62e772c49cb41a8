/-!
# The calendar

The proleptic Gregorian calendar: years of any sign, a leap day in every fourth year but in
only every fourth of the years that end a century. Days are numbered from 1 January 1970.

## Main definitions

* `Date`, `Date.isValid`: year, month and day
* `Date.toDays`, `Date.ofDays`: the number of a date and the date of a number

## Main results

* `sum_monthLengths`: a year has as many days as its months together
-/

namespace CallMeter.Time

/-- A year with a leap day. -/
def isLeap (year : Int) : Bool :=
  year % 4 == 0 && (year % 100 != 0 || year % 400 == 0)

/-- The lengths of the months of a year. -/
def monthLengths (year : Int) : List Nat :=
  [31, if isLeap year then 29 else 28, 31, 30, 31, 30, 31, 31, 30, 31, 30, 31]

/-- The days of a year. -/
def yearLength (year : Int) : Nat :=
  if isLeap year then 366 else 365

theorem sum_monthLengths (year : Int) : (monthLengths year).foldl (· + ·) 0 = yearLength year := by
  by_cases h : isLeap year = true <;> simp [monthLengths, yearLength, h]

/-- **Date**: a day of a year, months and days counted from one. -/
structure Date where
  year : Int
  month : Nat
  day : Nat
  deriving DecidableEq

/-- The date exists in the calendar. -/
def Date.isValid (d : Date) : Bool :=
  1 ≤ d.month && d.month ≤ 12 && 1 ≤ d.day &&
    match (monthLengths d.year)[d.month - 1]? with
    | some n => d.day ≤ n
    | none => false

/-- Days from 1 January of year 1 to 1 January of `year`. -/
def daysBeforeYear (year : Int) : Int :=
  let y := year - 1
  365 * y + y / 4 - y / 100 + y / 400

/-- Days of a year before its month `month`. -/
def daysBeforeMonth (year : Int) (month : Nat) : Nat :=
  ((monthLengths year).take (month - 1)).foldl (· + ·) 0

/-- The number of 1 January of year 1, counted from 1 January 1970. -/
def firstDay : Int := -719162

/-- **The number of a date**, counted from 1 January 1970. -/
def Date.toDays (d : Date) : Int :=
  firstDay + daysBeforeYear d.year + daysBeforeMonth d.year d.month + (d.day - 1)

/-- The month and day of a day of the year, where `lengths` are the months from `month` on. -/
def monthDay (month : Nat) : List Nat → Nat → Nat × Nat
  | [], n => (month, n + 1)
  | length :: rest, n =>
    if n < length then (month, n + 1) else monthDay (month + 1) rest (n - length)

/-- The year of a day counted from 1 January of year 1, and the day of that year. The day is
split into cycles of 400, 100, 4 and single years; the last day of a long cycle belongs to its
last year. -/
def yearDay (n : Int) : Int × Nat :=
  let inEra := n % 146097
  let centuries := min (inEra / 36524) 3
  let inCentury := inEra - 36524 * centuries
  let fours := inCentury / 1461
  let inFour := inCentury - 1461 * fours
  let years := min (inFour / 365) 3
  (400 * (n / 146097) + 100 * centuries + 4 * fours + years + 1, (inFour - 365 * years).toNat)

/-- **The date of a number**, counted from 1 January 1970. -/
def Date.ofDays (n : Int) : Date :=
  let (year, dayOfYear) := yearDay (n - firstDay)
  let (month, day) := monthDay 1 (monthLengths year) dayOfYear
  ⟨year, month, day⟩

end CallMeter.Time
