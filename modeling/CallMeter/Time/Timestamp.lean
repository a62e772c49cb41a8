import CallMeter.Text.Blank
import CallMeter.Time.Instant

/-!
# Timestamps

A timestamp is a date, a `T` or a space, a time of day with seconds, any number of fraction
digits, and an offset from UTC. Fraction digits after the ninth do not count. Second 60 is a
leap second in any minute.

## Main definitions

* `readDate?`, `readTime?`, `readOffset?`: the parts of a timestamp
* `Instant.parse?`: the instant that a timestamp denotes
-/

namespace CallMeter.Time

/-- The number of exactly `n` digits in front, and what follows. -/
def readDigits? (n : Nat) (cs : List Char) : Option (Nat × List Char) :=
  (Decimal.readNat? (cs.take n)).bind fun v =>
    if (cs.take n).length == n then some (v, cs.drop n) else none

/-- What follows the character `c`. -/
def expect? (c : Char) : List Char → Option (List Char)
  | [] => none
  | d :: r => if d == c then some r else none

/-- A date `YYYY-MM-DD` of the calendar. -/
def readDate? (cs : List Char) : Option (Date × List Char) := do
  let (year, cs) ← readDigits? 4 cs
  let (month, cs) ← readDigits? 2 (← expect? '-' cs)
  let (day, cs) ← readDigits? 2 (← expect? '-' cs)
  let date : Date := ⟨year, month, day⟩
  if date.isValid then some (date, cs) else none

/-- Nanoseconds of a fraction: the first nine digits, filled up with zeros. -/
def fractionNanos (ds : List Char) : Nat :=
  Decimal.value ((ds ++ List.replicate 9 '0').take 9)

/-- An optional fraction of a second in nanoseconds. -/
def readFraction? : List Char → Option (Nat × List Char)
  | '.' :: r =>
    let ds := r.takeWhile Char.isDigit
    if ds.isEmpty then none else some (fractionNanos ds, r.dropWhile Char.isDigit)
  | r => some (0, r)

/-- A time of day `HH:MM:SS` with an optional fraction: its second and nanoseconds. -/
def readTime? (cs : List Char) : Option ((Nat × Nat) × List Char) := do
  let (hour, cs) ← readDigits? 2 cs
  let (minute, cs) ← readDigits? 2 (← expect? ':' cs)
  let (second, cs) ← readDigits? 2 (← expect? ':' cs)
  let (nanos, cs) ← readFraction? cs
  if hour ≤ 23 && minute ≤ 59 && second ≤ 60 then
    let base := 3600 * hour + 60 * minute
    if second == 60 then some ((base + 59, nanos + 1000000000), cs)
    else some ((base + second, nanos), cs)
  else none

/-- An offset from UTC in seconds: `Z`, or a sign, hours and minutes. -/
def readOffset? : List Char → Option (Int × List Char)
  | [] => none
  | c :: r =>
    if c == 'Z' || c == 'z' then some (0, r)
    else do
      let sign : Int ←
        if c == '+' then some 1 else if c == '-' || c == '−' then some (-1) else none
      let (hours, r) ← readDigits? 2 r
      let (minutes, r) ← readDigits? 2 (← expect? ':' r)
      if hours ≤ 23 && minutes ≤ 59 then some (sign * (3600 * hours + 60 * minutes), r) else none

/-- What follows the separator of date and time. -/
def readSeparator? : List Char → Option (List Char)
  | [] => none
  | c :: r => if c == 'T' || c == 't' || c == ' ' then some r else none

/-- **Reading** a timestamp, white space around it allowed. -/
def Instant.parse? (text : String) : Option Instant := do
  let (date, cs) ← readDate? (Text.trimChars text.toList)
  let ((second, nanos), cs) ← readTime? (← readSeparator? cs)
  let (offset, cs) ← readOffset? cs
  if cs.isEmpty then some ⟨date.toDays * 86400 + second - offset, nanos⟩ else none

end CallMeter.Time
