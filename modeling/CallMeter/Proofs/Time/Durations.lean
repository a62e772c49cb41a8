import CallMeter.Proofs.Time.Timestamps
import CallMeter.Record
import Mathlib.Tactic.Ring

/-!
# Durations are elapsed time

The length of a call is compared here with a count that owes nothing to the way it is computed: the
nanoseconds from the start of year 0 in UTC, the days of which are counted by years and months.
Where no leap second is named, the length is the difference of the two counts in whole
milliseconds, and zero if the end is before the start.

## Main definitions

* `Timestamp.utcNanos`: the nanoseconds before a timestamp
* `CallRecord.EndsAt`, `CallRecord.Spans`: the timestamps of a call
* `MeasuresElapsed`: a length of calls is true elapsed time

## Main results

* `Instant.elapsedNanos_eq`: elapsed time without leap seconds
* `measuresElapsed_durationMs`: the length of a call is true elapsed time
-/

namespace CallMeter

namespace Time

/-- **The time from one instant to another** that are not leap seconds is the difference of their
counts of nanoseconds. -/
theorem Instant.elapsedNanos_eq {start finish : Instant} (hs : start.nanos < 10 ^ 9)
    (hf : finish.nanos < 10 ^ 9) :
    start.elapsedNanos finish =
      (finish.seconds * 10 ^ 9 + finish.nanos) - (start.seconds * 10 ^ 9 + start.nanos) := by
  have hs' : start.isLeapSecond = false := decide_eq_false (by omega)
  have hf' : finish.isLeapSecond = false := decide_eq_false (by omega)
  simp only [elapsedNanos, hs', hf', Bool.and_false, Bool.false_eq_true, if_false, day,
    secondOfDay]
  omega

/-- Toward zero and down differ below zero only, where nothing is left of either. -/
theorem Instant.toNat_elapsedMillis (start finish : Instant) :
    (start.elapsedMillis finish).toNat = (start.elapsedNanos finish / 10 ^ 6).toNat := by
  rw [elapsedMillis, Int.tdiv_eq_ediv, show Int.sign 1000000 = 1 from rfl]
  split <;> omega

namespace Timestamp

variable (w : Timestamp)

/-- A timestamp that does not name second 60. -/
def IsPlain : Prop :=
  w.time.second ≠ 60

instance : Decidable w.IsPlain := inferInstanceAs (Decidable (_ ≠ _))

/-- **The nanoseconds before a timestamp**, from the start of year 0 in UTC. Of a fraction, digits
after the ninth do not count. -/
def utcNanos : ℤ :=
  (daysBefore w.year w.month w.day * 86400 + 3600 * w.time.hour + 60 * w.time.minute +
    w.time.second - w.zone.seconds) * 10 ^ 9 + w.time.billionths

variable {w}

/-- **The instant of a timestamp** is its count of nanoseconds, less those of the 719528 days
before 1970. -/
theorem nanos_eq_utcNanos (plain : w.IsPlain) :
    w.instant.seconds * 10 ^ 9 + w.instant.nanos = w.utcNanos - 719528 * 86400 * 10 ^ 9 := by
  have second : min w.time.second 59 = w.time.second := by
    have := w.time.second_le
    unfold IsPlain at plain
    omega
  rw [utcNanos, instant, date, Date.toDays_eq_daysBefore w.month_bounds w.day_bounds.1,
    ClockTime.secondOfDay, second, w.time.nanos_of_ne plain]
  push_cast
  ring

/-- **Elapsed time** between two timestamps is the difference of their counts. -/
theorem elapsedNanos_instant {a b : Timestamp} (ha : a.IsPlain) (hb : b.IsPlain) :
    a.instant.elapsedNanos b.instant = b.utcNanos - a.utcNanos := by
  have la : a.instant.nanos < 10 ^ 9 := (a.time.nanos_of_ne ha).trans_lt a.time.billionths_lt
  have lb : b.instant.nanos < 10 ^ 9 := (b.time.nanos_of_ne hb).trans_lt b.time.billionths_lt
  rw [Instant.elapsedNanos_eq la lb, nanos_eq_utcNanos ha, nanos_eq_utcNanos hb]
  ring

/-- The years of timestamps have four digits, so that the counts are far from those of a word of
milliseconds. -/
theorem utcNanos_bounds (w : Timestamp) : -10 ^ 14 < w.utcNanos ∧ w.utcNanos < 10 ^ 21 := by
  have days := daysBefore_lt w.year_le w.month_bounds.2 w.day_bounds.2
  have zone := w.zone.seconds_bounds
  have nanos := w.time.billionths_lt
  have hh := w.time.hour_le
  have hm := w.time.minute_le
  have hs := w.time.second_le
  unfold utcNanos
  omega

end Timestamp

end Time

/-- The first candidate that is not blank is the foremost, or one behind it if it is blank or not
there. -/
theorem firstPresent_cons_eq_some {c : Option String} {cs : List (Option String)} {text : String} :
    firstPresent (c :: cs) = some text ↔
      (c = some text ∧ Text.isBlank text = false) ∨
        (∀ s, c = some s → Text.isBlank s = true) ∧ firstPresent cs = some text := by
  cases c with
  | none => simp [firstPresent]
  | some s =>
    cases blank : Text.isBlank s with
    | true =>
      have behind : firstPresent (some s :: cs) = firstPresent cs := by simp [firstPresent, blank]
      rw [behind]
      constructor
      · intro h
        exact .inr ⟨fun _ e => Option.some.inj e ▸ blank, h⟩
      · rintro (⟨e, full⟩ | ⟨-, h⟩)
        · rw [← Option.some.inj e, blank] at full
          cases full
        · exact h
    | false =>
      have foremost : firstPresent (some s :: cs) = some s := by simp [firstPresent, blank]
      rw [foremost]
      constructor
      · intro e
        exact .inl ⟨e, Option.some.inj e ▸ blank⟩
      · rintro (⟨e, -⟩ | ⟨all, -⟩)
        · exact e
        · rw [all s rfl] at blank
          cases blank

namespace CallRecord

variable (r : CallRecord)

open Time (Timestamp)

/-- **The end of a call**: its end time, or its last update if there is none, blank texts being
none. -/
def EndsAt (text : String) : Prop :=
  Text.isBlank text = false ∧ (r.endedAt = some text ∨
    (∀ s, r.endedAt = some s → Text.isBlank s = true) ∧ r.lastUpdatedAt = some text)

/-- The start and the end of a call are these timestamps. -/
def Spans (a b : Timestamp) : Prop :=
  ∃ start finish, r.startedAt = some start ∧ r.EndsAt finish ∧ a.Spells start ∧ b.Spells finish

variable {r}

theorem resolvedEnd_eq_some {text : String} : r.resolvedEnd = some text ↔ r.EndsAt text := by
  rw [resolvedEnd, firstPresent_cons_eq_some, firstPresent_cons_eq_some, EndsAt]
  have none : firstPresent [] = none := rfl
  simp only [none, reduceCtorEq, and_false, or_false]
  tauto

theorem durationMs_of_spans {a b : Timestamp} (h : r.Spans a b) :
    r.durationMs = UInt64.ofNat (Time.Instant.elapsedMillis a.instant b.instant).toNat := by
  obtain ⟨start, finish, hs, hf, ha, hb⟩ := h
  have begins : r.startedAt.bind Time.Instant.parse? = some a.instant := by
    rw [hs]
    exact Time.parse?_eq_some.mpr ⟨a, ha, rfl⟩
  have ends : r.resolvedEnd.bind Time.Instant.parse? = some b.instant := by
    rw [resolvedEnd_eq_some.mpr hf]
    exact Time.parse?_eq_some.mpr ⟨b, hb, rfl⟩
  simp only [durationMs, begins, ends]

theorem toNat_durationMs {a b : Timestamp} (h : r.Spans a b) (ha : a.IsPlain) (hb : b.IsPlain) :
    (r.durationMs.toNat : ℤ) = max 0 ((b.utcNanos - a.utcNanos) / 10 ^ 6) := by
  have boundsA := a.utcNanos_bounds
  have boundsB := b.utcNanos_bounds
  rw [durationMs_of_spans h, Time.Instant.toNat_elapsedMillis,
    Time.Timestamp.elapsedNanos_instant ha hb]
  have fits : ((b.utcNanos - a.utcNanos) / 10 ^ 6).toNat < 2 ^ 64 := by omega
  rw [UInt64.toNat_ofNat_of_lt' fits, Int.toNat_eq_max, max_comm]

theorem durationMs_of_not_spans (h : ∀ a b, ¬ r.Spans a b) : r.durationMs = 0 := by
  unfold durationMs
  split
  · next begins ends =>
    obtain ⟨start, hs, ha⟩ := Option.bind_eq_some_iff.mp begins
    obtain ⟨finish, hf, hb⟩ := Option.bind_eq_some_iff.mp ends
    obtain ⟨a, ha, -⟩ := Time.parse?_eq_some.mp ha
    obtain ⟨b, hb, -⟩ := Time.parse?_eq_some.mp hb
    exact absurd ⟨start, finish, hs, resolvedEnd_eq_some.mp hf, ha, hb⟩ (h a b)
  · rfl

end CallRecord

open Time (Timestamp)

/-- **A true measure of elapsed time** in milliseconds. -/
structure MeasuresElapsed (duration : CallRecord → UInt64) : Prop where
  /-- It is the time between the two counts of nanoseconds, rounded down, and never negative. -/
  elapsed (r : CallRecord) (a b : Timestamp) : r.Spans a b → a.IsPlain → b.IsPlain →
    ((duration r).toNat : ℤ) = max 0 ((b.utcNanos - a.utcNanos) / 10 ^ 6)
  /-- It does not depend on the offset with which an instant is written. -/
  offsets (r r' : CallRecord) (a b a' b' : Timestamp) : r.Spans a b → r'.Spans a' b' →
    a.IsPlain → b.IsPlain → a'.IsPlain → b'.IsPlain →
    a.utcNanos = a'.utcNanos → b.utcNanos = b'.utcNanos → duration r = duration r'
  /-- One way or the other there is none. -/
  swapped (r r' : CallRecord) (a b : Timestamp) : r.Spans a b → r'.Spans b a →
    a.IsPlain → b.IsPlain → duration r = 0 ∨ duration r' = 0
  /-- The parts of a time that is cut at a whole millisecond add up. -/
  parts (r r' r'' : CallRecord) (a b c : Timestamp) : r.Spans a b → r'.Spans b c → r''.Spans a c →
    a.IsPlain → b.IsPlain → c.IsPlain →
    10 ^ 6 ∣ a.utcNanos → 10 ^ 6 ∣ b.utcNanos → 10 ^ 6 ∣ c.utcNanos →
    a.utcNanos ≤ b.utcNanos → b.utcNanos ≤ c.utcNanos →
    (duration r'').toNat = (duration r).toNat + (duration r').toNat
  /-- There is none without a start and an end that can be read. -/
  unread (r : CallRecord) : (∀ a b, ¬ r.Spans a b) → duration r = 0

/-- **The length of a call** is true elapsed time. -/
theorem measuresElapsed_durationMs : MeasuresElapsed CallRecord.durationMs where
  elapsed r a b h ha hb := CallRecord.toNat_durationMs h ha hb
  offsets r r' a b a' b' h h' ha hb ha' hb' start finish := by
    refine UInt64.toNat_inj.mp (Nat.cast_injective (R := ℤ) ?_)
    rw [CallRecord.toNat_durationMs h ha hb, CallRecord.toNat_durationMs h' ha' hb', start, finish]
  swapped r r' a b h h' ha hb := by
    have forth := CallRecord.toNat_durationMs h ha hb
    have back := CallRecord.toNat_durationMs h' hb ha
    simp only [← UInt64.toNat_inj, UInt64.toNat_zero]
    omega
  parts r r' r'' a b c h h' h'' ha hb hc da db dc ab bc := by
    have first := CallRecord.toNat_durationMs h ha hb
    have second := CallRecord.toNat_durationMs h' hb hc
    have whole := CallRecord.toNat_durationMs h'' ha hc
    omega
  unread r h := CallRecord.durationMs_of_not_spans h

/-- The last hour of 28 February of year 0 begins, at an hour and a half behind UTC. -/
def beforeLeapDay : Timestamp where
  year := 0
  month := 2
  day := 28
  separator := 'T'
  time := ⟨23, 0, 0, [], by decide, by decide, by decide, List.all_eq_true.mp rfl⟩
  zone := .offset '-' 1 30 (by decide) (by decide) (by decide)
  year_le := by decide
  month_bounds := by decide
  day_bounds := by decide
  separator_mem := by decide

/-- The first two milliseconds of 1 March of year 0 in UTC are over but for a tenth of a
nanosecond. -/
def afterLeapDay : Timestamp where
  year := 0
  month := 3
  day := 1
  separator := ' '
  time := ⟨0, 0, 0, "0019999999".toList, by decide, by decide, by decide,
    List.all_eq_true.mp (by decide)⟩
  zone := .utc 'Z' (by decide)
  year_le := by decide
  month_bounds := by decide
  day_bounds := by decide
  separator_mem := by decide

/-- A call between the two, its end known from its last update only. -/
def overLeapDay : CallRecord where
  tenant := none
  useCase := none
  startedAt := some "0000-02-28T23:00:00-01:30"
  endedAt := some " "
  lastUpdatedAt := some "0000-03-01 00:00:00.0019999999Z"
  ended := true
  hasError := false
  turns := 0
  latencyMs := 0
  inputTokens := 0
  outputTokens := 0

theorem measuresElapsed_durationMs_over_a_leap_day :
    overLeapDay.Spans beforeLeapDay afterLeapDay ∧ overLeapDay.durationMs.toNat = 84600001 := by
  have spans : overLeapDay.Spans beforeLeapDay afterLeapDay :=
    ⟨_, _, rfl, ⟨by decide, .inr ⟨by decide, rfl⟩⟩, by decide, by decide⟩
  have elapsed := measuresElapsed_durationMs.elapsed _ _ _ spans (by decide) (by decide)
  have nanos : afterLeapDay.utcNanos - beforeLeapDay.utcNanos = 84600001999999 := by decide
  rw [nanos] at elapsed
  exact ⟨spans, by omega⟩

end CallMeter
