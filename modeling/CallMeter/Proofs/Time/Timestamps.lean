import CallMeter.Proofs.Time.Counted
import CallMeter.Proofs.Time.IsoText
import CallMeter.Time.Timestamp

/-!
# The texts of timestamps

A timestamp is given here by its parts, with the bounds that they have: a date of the calendar, a
separator, a time of day with any number of fraction digits, and a zone. Reading a text finds an
instant exactly if the text is written from such parts, white space around it aside, and it is the
instant of these parts.

## Main definitions

* `Zone`, `ClockTime`, `Timestamp`: the parts of a timestamp
* `Timestamp.chars`: how they are written
* `Timestamp.instant`: the instant that they denote

## Main results

* `readDigits?_eq_some`, `readFraction?_eq_some`: numbers of fixed width, and fractions
* `readTime?_eq_some`, `readOffset?_eq_some`, `readDate?_eq_some`: the parts
* `parse?_eq_some`: the texts that denote an instant are those of timestamps
-/

namespace CallMeter.Time

open Decimal (padded value)

/-! ## Digits and marks -/

/-- **Digits of a fixed width** are read as the number that they show, and nothing else is. -/
theorem readDigits?_eq_some {n v : ℕ} (hn : 0 < n) {cs rest : List Char} :
    readDigits? n cs = some (v, rest) ↔ v < 10 ^ n ∧ cs = padded n v ++ rest := by
  simp only [readDigits?, Option.bind_eq_some_iff, Decimal.readNat?_eq_some, beq_iff_eq,
    Option.ite_none_right_eq_some, Option.some_inj, Prod.mk.injEq]
  constructor
  · rintro ⟨_, ⟨some, digits, rfl⟩, length, rfl, rfl⟩
    have run := Decimal.padded_value some digits
    have lt := Decimal.value_lt digits
    rw [length] at run lt
    exact ⟨lt, by rw [run, List.take_append_drop]⟩
  · rintro ⟨lt, rfl⟩
    have length := Decimal.length_padded hn lt
    rw [List.take_left' length, List.drop_left' length, Decimal.value_padded]
    have some : padded n v ≠ [] := List.ne_nil_of_length_pos (by rwa [length])
    exact ⟨v, ⟨some, fun _ => Decimal.isDigit_of_mem_padded, rfl⟩, length, rfl, rfl⟩

theorem expect?_eq_some {c : Char} {cs rest : List Char} :
    expect? c cs = some rest ↔ cs = c :: rest := by
  cases cs with
  | nil => simp [expect?]
  | cons d r => simp [expect?]

/-! ## Fractions of a second -/

/-- A fraction as it is written: a point and its digits, or nothing. -/
def fractionChars (ds : List Char) : List Char :=
  if ds = [] then [] else '.' :: ds

/-- **The nanoseconds of a fraction**, rounded down: digits after the ninth do not count. -/
theorem fractionNanos_eq {ds : List Char} (hd : ∀ c ∈ ds, c.isDigit = true) :
    fractionNanos ds = value ds * 10 ^ 9 / 10 ^ ds.length := by
  have filled : ∀ c ∈ ds ++ List.replicate 9 '0', c.isDigit = true := by
    intro c hc
    rcases List.mem_append.mp hc with hc | hc
    · exact hd c hc
    · rw [List.eq_of_mem_replicate hc]
      rfl
  have length : ((ds ++ List.replicate 9 '0').drop 9).length = ds.length := by simp
  have tail := Decimal.value_lt fun c hc => filled c (List.mem_of_mem_drop (i := 9) hc)
  rw [length] at tail
  rw [← Decimal.value_append_zeros, ← List.take_append_drop 9 (ds ++ List.replicate 9 '0'),
    Decimal.value_append, length, Nat.mul_comm, Nat.mul_add_div (Nat.pow_pos (by decide)),
    Nat.div_eq_of_lt tail, Nat.add_zero, fractionNanos]

/-- **Ends**: a text that carries neither a fraction nor its digits on. -/
def Ends (rest : List Char) : Prop :=
  ∀ c ∈ rest.head?, c ≠ '.' ∧ c.isDigit = false

theorem Ends.takeWhile {rest : List Char} (h : Ends rest) : rest.takeWhile Char.isDigit = [] := by
  cases rest with
  | nil => rfl
  | cons c r => exact List.takeWhile_cons_of_neg (by simp [(h c rfl).2])

theorem Ends.dropWhile {rest : List Char} (h : Ends rest) :
    rest.dropWhile Char.isDigit = rest := by
  have parts := List.takeWhile_append_dropWhile (p := Char.isDigit) (l := rest)
  rwa [h.takeWhile] at parts

theorem readFraction?_of_ne {cs : List Char} (h : cs.head? ≠ some '.') :
    readFraction? cs = some (0, cs) := by
  unfold readFraction?
  split
  · exact absurd rfl h
  · rfl

/-- **A fraction is read** as the digits after a point, or nothing, before a text that does not
carry it on. -/
theorem readFraction?_eq_some {cs rest : List Char} (ends : Ends rest) {n : ℕ} :
    readFraction? cs = some (n, rest) ↔
      ∃ ds, (∀ c ∈ ds, c.isDigit = true) ∧ cs = fractionChars ds ++ rest ∧
        n = fractionNanos ds := by
  constructor
  · intro h
    by_cases point : cs.head? = some '.'
    · obtain ⟨r, rfl⟩ := List.head?_eq_some_iff.mp point
      simp only [readFraction?, Option.ite_none_left_eq_some, List.isEmpty_iff, Option.some_inj,
        Prod.mk.injEq] at h
      obtain ⟨some, rfl, rfl⟩ := h
      refine ⟨r.takeWhile Char.isDigit, fun c => List.mem_takeWhile_imp, ?_, rfl⟩
      rw [fractionChars, if_neg some, List.cons_append, List.takeWhile_append_dropWhile]
    · rw [readFraction?_of_ne point] at h
      cases h
      exact ⟨[], fun c hc => (List.not_mem_nil hc).elim, rfl, rfl⟩
  · rintro ⟨ds, hd, rfl, rfl⟩
    rw [fractionChars]
    split
    · next none =>
      subst none
      refine readFraction?_of_ne fun h => ?_
      exact (ends '.' h).1 rfl
    · next some =>
      have digits : (ds ++ rest).takeWhile Char.isDigit = ds := by
        rw [List.takeWhile_append_of_pos hd, ends.takeWhile, List.append_nil]
      have others : (ds ++ rest).dropWhile Char.isDigit = rest := by
        rw [List.dropWhile_append_of_pos hd, ends.dropWhile]
      simp [readFraction?, digits, others, some]

/-! ## Times of day -/

/-- **Time of day**, as it is written. The digits of a fraction are none if there is no point. -/
structure ClockTime where
  hour : ℕ
  minute : ℕ
  second : ℕ
  fraction : List Char
  hour_le : hour ≤ 23
  minute_le : minute ≤ 59
  /-- Second 60 is a leap second. -/
  second_le : second ≤ 60
  fraction_digits : ∀ c ∈ fraction, c.isDigit = true

namespace ClockTime

variable (t : ClockTime)

/-- How a time of day is written. -/
def chars : List Char :=
  padded 2 t.hour ++ ':' :: (padded 2 t.minute ++ ':' :: (padded 2 t.second ++
    fractionChars t.fraction))

/-- The second of the day, a leap second being that before it. -/
def secondOfDay : ℕ :=
  3600 * t.hour + 60 * t.minute + min t.second 59

/-- The nanoseconds within the second, a billion more in a leap second. -/
def nanos : ℕ :=
  fractionNanos t.fraction + if t.second = 60 then 1000000000 else 0

/-- **The fraction** of the second in nanoseconds, rounded down. -/
def billionths : ℕ :=
  value t.fraction * 10 ^ 9 / 10 ^ t.fraction.length

theorem billionths_lt : t.billionths < 10 ^ 9 := by
  refine Nat.div_lt_of_lt_mul ?_
  exact Nat.mul_lt_mul_of_pos_right (Decimal.value_lt t.fraction_digits) (by decide)

theorem nanos_of_ne (h : t.second ≠ 60) : t.nanos = t.billionths := by
  rw [nanos, if_neg h, Nat.add_zero, fractionNanos_eq t.fraction_digits, billionths]

end ClockTime

/-- **A time of day is read** as its second and nanoseconds. -/
theorem readTime?_eq_some {cs rest : List Char} (ends : Ends rest) {s n : ℕ} :
    readTime? cs = some ((s, n), rest) ↔
      ∃ t : ClockTime, cs = t.chars ++ rest ∧ s = t.secondOfDay ∧ n = t.nanos := by
  simp only [readTime?, Option.bind_eq_bind, Option.bind_eq_some_iff, Prod.exists, expect?_eq_some,
    readDigits?_eq_some (show 0 < 2 by decide), Bool.and_eq_true, decide_eq_true_eq, beq_iff_eq,
    Option.ite_none_right_eq_some]
  constructor
  · rintro ⟨hour, _, ⟨-, rfl⟩, _, rfl, minute, _, ⟨-, rfl⟩, _, rfl, second, _, ⟨-, rfl⟩, nanos,
      rest', fraction, ⟨⟨hh, hm⟩, hs⟩, h⟩
    have parts : rest' = rest ∧ s = 3600 * hour + 60 * minute + min second 59 ∧
        n = nanos + if second = 60 then 1000000000 else 0 := by
      split at h
      · next leap =>
        cases h
        exact ⟨rfl, by omega, by rw [if_pos leap]⟩
      · next leap =>
        cases h
        exact ⟨rfl, by omega, by rw [if_neg leap, Nat.add_zero]⟩
    obtain ⟨rfl, rfl, rfl⟩ := parts
    obtain ⟨ds, hd, rfl, rfl⟩ := (readFraction?_eq_some ends).mp fraction
    refine ⟨⟨hour, minute, second, ds, hh, hm, hs, hd⟩, ?_, rfl, rfl⟩
    simp only [ClockTime.chars, List.append_assoc, List.cons_append]
  · rintro ⟨t, rfl, rfl, rfl⟩
    have hh := t.hour_le
    have hm := t.minute_le
    have hs := t.second_le
    simp only [ClockTime.chars, List.append_assoc, List.cons_append]
    refine ⟨t.hour, _, ⟨by omega, rfl⟩, _, rfl, t.minute, _, ⟨by omega, rfl⟩, _, rfl, t.second, _,
      ⟨by omega, rfl⟩, _, rest, (readFraction?_eq_some ends).mpr ⟨_, t.fraction_digits, rfl, rfl⟩,
      ⟨⟨hh, hm⟩, hs⟩, ?_⟩
    unfold ClockTime.secondOfDay ClockTime.nanos
    split
    · next leap => rw [leap]; rfl
    · next leap => rw [Nat.min_eq_left (by omega), Nat.add_zero]

/-! ## Zones -/

/-- **Zone**, as it is written: the letter of UTC, or a sign with hours and minutes. -/
inductive Zone
  | utc (letter : Char) (letter_mem : letter ∈ ['Z', 'z'])
  | offset (sign : Char) (hours minutes : ℕ) (sign_mem : sign ∈ ['+', '-', '−'])
      (hours_le : hours ≤ 23) (minutes_le : minutes ≤ 59)

namespace Zone

/-- How a zone is written. -/
def chars : Zone → List Char
  | utc letter _ => [letter]
  | offset sign hours minutes .. => sign :: (padded 2 hours ++ ':' :: padded 2 minutes)

/-- **The seconds** by which the clocks of a zone are ahead of UTC. -/
def seconds : Zone → ℤ
  | utc .. => 0
  | offset sign hours minutes .. =>
    if sign = '+' then 3600 * hours + 60 * minutes else -(3600 * hours + 60 * minutes)

theorem seconds_bounds (z : Zone) : -86400 < z.seconds ∧ z.seconds < 86400 := by
  cases z with
  | utc =>
    show -86400 < (0 : ℤ) ∧ (0 : ℤ) < 86400
    omega
  | offset sign hours minutes mem hh hm =>
    unfold seconds
    split <;> omega

/-- A zone does not carry a fraction on. -/
theorem ends_chars (z : Zone) : Ends z.chars := by
  intro c hc
  cases z with
  | utc letter mem =>
    obtain rfl := Option.some.inj hc
    simp only [List.mem_cons, List.not_mem_nil, or_false] at mem
    rcases mem with rfl | rfl
    all_goals exact ⟨by decide, rfl⟩
  | offset sign hours minutes mem _ _ =>
    obtain rfl := Option.some.inj hc
    simp only [List.mem_cons, List.not_mem_nil, or_false] at mem
    rcases mem with rfl | rfl | rfl
    all_goals exact ⟨by decide, rfl⟩

end Zone

/-- What follows the sign of an offset, read as its seconds with the factor of the sign. -/
def readSigned? (factor : ℤ) (cs : List Char) : Option (ℤ × List Char) := do
  let (hours, cs) ← readDigits? 2 cs
  let (minutes, cs) ← readDigits? 2 (← expect? ':' cs)
  if hours ≤ 23 && minutes ≤ 59 then some (factor * (3600 * hours + 60 * minutes), cs) else none

theorem readOffset?_cons (c : Char) (cs : List Char) :
    readOffset? (c :: cs) =
      if c = 'Z' ∨ c = 'z' then some (0, cs)
      else if c = '+' then readSigned? 1 cs
      else if c = '-' ∨ c = '−' then readSigned? (-1) cs
      else none := by
  simp only [readOffset?, Bool.or_eq_true, beq_iff_eq]
  rfl

theorem readSigned?_eq_some {factor offset : ℤ} {cs rest : List Char} :
    readSigned? factor cs = some (offset, rest) ↔
      ∃ hours minutes : ℕ, hours ≤ 23 ∧ minutes ≤ 59 ∧
        cs = padded 2 hours ++ ':' :: (padded 2 minutes ++ rest) ∧
        offset = factor * (3600 * hours + 60 * minutes) := by
  simp only [readSigned?, Option.bind_eq_bind, Option.bind_eq_some_iff, Prod.exists,
    expect?_eq_some, readDigits?_eq_some (show 0 < 2 by decide), Bool.and_eq_true,
    decide_eq_true_eq, Option.ite_none_right_eq_some, Option.some_inj, Prod.mk.injEq]
  constructor
  · rintro ⟨hours, _, ⟨-, rfl⟩, _, rfl, minutes, _, ⟨-, rfl⟩, ⟨hh, hm⟩, rfl, rfl⟩
    exact ⟨hours, minutes, hh, hm, rfl, rfl⟩
  · rintro ⟨hours, minutes, hh, hm, rfl, rfl⟩
    exact ⟨hours, _, ⟨by omega, rfl⟩, _, rfl, minutes, _, ⟨by omega, rfl⟩, ⟨hh, hm⟩, rfl, rfl⟩

/-- **A zone is read** as its seconds. -/
theorem readOffset?_eq_some {cs rest : List Char} {offset : ℤ} :
    readOffset? cs = some (offset, rest) ↔
      ∃ z : Zone, cs = z.chars ++ rest ∧ offset = z.seconds := by
  constructor
  · intro h
    cases cs with
    | nil => cases h
    | cons c r =>
      -- the first character decides: a letter of UTC, a plus or one of two minus signs
      simp only [readOffset?_cons] at h
      split at h
      · next letter =>
        cases h
        exact ⟨.utc c (by simpa using letter), rfl, rfl⟩
      split at h
      · next plus =>
        obtain ⟨hours, minutes, hh, hm, rfl, rfl⟩ := readSigned?_eq_some.mp h
        refine ⟨.offset c hours minutes (by simp [plus]) hh hm, ?_, ?_⟩
        · simp [Zone.chars]
        · simp [Zone.seconds, plus]
      split at h
      · next plus minus =>
        obtain ⟨hours, minutes, hh, hm, rfl, rfl⟩ := readSigned?_eq_some.mp h
        refine ⟨.offset c hours minutes (by simp [minus]) hh hm, ?_, ?_⟩
        · simp [Zone.chars]
        · simp [Zone.seconds, plus]
      · cases h
  · rintro ⟨z, rfl, rfl⟩
    cases z with
    | utc letter mem =>
      rw [Zone.chars, List.singleton_append, readOffset?_cons, if_pos (by simpa using mem)]
      rfl
    | offset sign hours minutes mem hh hm =>
      have read (factor : ℤ) :
          readSigned? factor (padded 2 hours ++ ':' :: (padded 2 minutes ++ rest)) =
            some (factor * (3600 * hours + 60 * minutes), rest) :=
        readSigned?_eq_some.mpr ⟨hours, minutes, hh, hm, rfl, rfl⟩
      simp only [List.mem_cons, List.not_mem_nil, or_false] at mem
      simp only [Zone.chars, List.cons_append, List.append_assoc, readOffset?_cons, Zone.seconds]
      rcases mem with rfl | rfl | rfl
      · simpa using read 1
      · simpa using read (-1)
      · simpa using read (-1)

/-! ## Timestamps -/

theorem readSeparator?_eq_some {cs rest : List Char} :
    readSeparator? cs = some rest ↔ ∃ c ∈ ['T', 't', ' '], cs = c :: rest := by
  cases cs with
  | nil => simp [readSeparator?]
  | cons d r => simp [readSeparator?]; tauto

/-- **A date is read** if it exists. -/
theorem readDate?_eq_some {cs rest : List Char} {date : Date} :
    readDate? cs = some (date, rest) ↔
      ∃ year month day : ℕ, date = ⟨year, month, day⟩ ∧ year ≤ 9999 ∧ date.isValid = true ∧
        cs = padded 4 year ++ '-' :: (padded 2 month ++ '-' :: (padded 2 day ++ rest)) := by
  simp only [readDate?, Option.bind_eq_bind, Option.bind_eq_some_iff, Prod.exists, expect?_eq_some,
    readDigits?_eq_some (show 0 < 4 by decide), readDigits?_eq_some (show 0 < 2 by decide),
    Option.ite_none_right_eq_some, Option.some_inj, Prod.mk.injEq]
  constructor
  · rintro ⟨year, _, ⟨hy, rfl⟩, _, rfl, month, _, ⟨-, rfl⟩, _, rfl, day, _, ⟨-, rfl⟩, valid, rfl,
      rfl⟩
    exact ⟨year, month, day, rfl, by omega, valid, rfl⟩
  · rintro ⟨year, month, day, rfl, hy, valid, rfl⟩
    obtain ⟨-, hm, -⟩ := Date.isValid_iff.mp valid
    have hd := Date.day_le valid
    dsimp only at hm hd
    exact ⟨year, _, ⟨by omega, rfl⟩, _, rfl, month, _, ⟨by omega, rfl⟩, _, rfl, day, _,
      ⟨by omega, rfl⟩, valid, rfl, rfl⟩

/-- **Timestamp**, as it is written: a date that exists in a year of four digits, a separator, a
time of day and a zone. -/
structure Timestamp where
  year : ℕ
  month : ℕ
  day : ℕ
  separator : Char
  time : ClockTime
  zone : Zone
  year_le : year ≤ 9999
  month_bounds : 1 ≤ month ∧ month ≤ 12
  day_bounds : 1 ≤ day ∧ day ≤ daysInMonth year month
  separator_mem : separator ∈ ['T', 't', ' ']

namespace Timestamp

variable (w : Timestamp)

/-- How a timestamp is written. -/
def chars : List Char :=
  padded 4 w.year ++ '-' :: (padded 2 w.month ++ '-' :: (padded 2 w.day ++
    w.separator :: (w.time.chars ++ w.zone.chars)))

/-- **The text of a timestamp**, white space around it allowed. -/
def Spells (text : String) : Prop :=
  Text.trimChars text.toList = w.chars

instance (text : String) : Decidable (w.Spells text) := inferInstanceAs (Decidable (_ = _))

/-- The date of a timestamp. -/
def date : Date :=
  ⟨w.year, w.month, w.day⟩

/-- **The instant of a timestamp**. -/
def instant : Instant :=
  ⟨w.date.toDays * 86400 + w.time.secondOfDay - w.zone.seconds, w.time.nanos⟩

end Timestamp

/-- **The texts that denote an instant** are those of timestamps. -/
theorem parse?_eq_some {text : String} {t : Instant} :
    Instant.parse? text = some t ↔ ∃ w : Timestamp, w.Spells text ∧ t = w.instant := by
  simp only [Instant.parse?, Option.bind_eq_bind, Option.bind_eq_some_iff, Prod.exists,
    readDate?_eq_some, readSeparator?_eq_some, readOffset?_eq_some, Option.ite_none_right_eq_some,
    List.isEmpty_iff, Option.some_inj, Timestamp.Spells]
  constructor
  · rintro ⟨_, _, ⟨year, month, day, rfl, hy, valid, text⟩, _, ⟨separator, mem, rfl⟩, s, n, _, time,
      _, _, ⟨zone, rfl, rfl⟩, rfl, rfl⟩
    -- the fraction ends where the zone begins, so the time is read without what follows it
    rw [List.append_nil] at time
    obtain ⟨clock, rfl, rfl, rfl⟩ := (readTime?_eq_some zone.ends_chars).mp time
    obtain ⟨hm, hd⟩ := Date.isValid_iff_le_daysInMonth.mp valid
    exact ⟨⟨year, month, day, separator, clock, zone, hy, hm, hd, mem⟩, text, rfl⟩
  · rintro ⟨w, text, rfl⟩
    have valid := Date.isValid_iff_le_daysInMonth.mpr ⟨w.month_bounds, w.day_bounds⟩
    refine ⟨w.date, _, ⟨w.year, w.month, w.day, rfl, w.year_le, valid, text⟩, _,
      ⟨w.separator, w.separator_mem, rfl⟩, w.time.secondOfDay, w.time.nanos, w.zone.chars,
      (readTime?_eq_some w.zone.ends_chars).mpr ⟨w.time, rfl, rfl, rfl⟩, w.zone.seconds, [],
      ⟨w.zone, (List.append_nil _).symm, rfl⟩, rfl, rfl⟩

end CallMeter.Time
