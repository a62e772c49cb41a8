import CallMeter.Proofs.Decimal.Digits
import CallMeter.Proofs.Time.Calendar
import CallMeter.Time.Instant
import Mathlib.Data.String.Basic

/-!
# ISO text in the order of time

Texts that are made of numbers of fixed widths compare number by number. The ISO text of an
instant goes from the year down to the millisecond, so among the years of four digits the order
of texts is the order of time, up to the milliseconds that the text shows. A leap second is
written as second 60, which no other second of its minute is.

## Main definitions

* `Instant.Proper`: the nanoseconds stay within the second, or within the leap second at the end
  of a minute
* `Instant.InYears`: the year has four digits
* `Instant.truncated`: an instant cut to milliseconds
* the order of instants in time

## Main results

* `padded_cons_lt`: numbers of one width in front of texts decide their order
* `toIso_lt`: a later millisecond has a greater text
* `toIso_le_iff`: the order of texts is the order of time
* `head_toIso`: what the ISO text of any year begins with
-/

namespace CallMeter

/-! ## Numbers of one width -/

namespace Decimal

/-- **Digits of one length** in front of two texts decide their order if the numbers that they
denote differ. -/
theorem append_lt_of_value_lt {cs ds : List Char} (length : cs.length = ds.length)
    (hc : ∀ c ∈ cs, c.isDigit = true) (hd : ∀ d ∈ ds, d.isDigit = true)
    (h : value cs < value ds) (rest rest' : List Char) : cs ++ rest < ds ++ rest' := by
  induction cs generalizing ds with
  | nil =>
    cases ds with
    | nil => exact absurd h (Nat.lt_irrefl _)
    | cons d ds => cases length
  | cons c cs ih =>
    cases ds with
    | nil => cases length
    | cons d ds =>
      have same : cs.length = ds.length := Nat.succ.inj length
      obtain ⟨digit, hcs⟩ := List.forall_mem_cons.mp hc
      obtain ⟨digit', hds⟩ := List.forall_mem_cons.mp hd
      rw [value_cons, value_cons, same] at h
      rw [List.cons_append, List.cons_append, List.cons_lt_cons_iff]
      rcases lt_trichotomy c.toNat d.toNat with hlt | heq | hgt
      · exact .inl hlt
      · obtain rfl := Char.toNat_inj.mp heq
        exact .inr ⟨rfl, ih same hcs hds (Nat.lt_of_add_lt_add_left h)⟩
      · have lower := ((isDigit_iff d).mp digit').1
        have step : d.toNat - '0'.toNat + 1 ≤ c.toNat - '0'.toNat := by omega
        have more := Nat.mul_le_mul_left (10 ^ ds.length) step
        have others := value_lt hds
        rw [Nat.mul_succ] at more
        omega

section Padded

variable {width m n : Nat}

theorem isDigit_of_mem_padded {c : Char} (h : c ∈ padded width n) : c.isDigit = true := by
  rcases List.mem_append.mp h with hz | hd
  · rw [List.eq_of_mem_replicate hz]
    rfl
  · exact isDigit_of_mem_digits hd

@[simp] theorem value_padded (width n : Nat) : value (padded width n) = n := by
  rw [value, padded, Nat.ofDigitChars_append, Nat.ofDigitChars_replicate_zero, Nat.mul_zero]
  exact value_digits n

theorem length_padded (hw : 0 < width) (h : n < 10 ^ width) : (padded width n).length = width := by
  have fits : (digits n).length ≤ width := (Nat.length_toDigits_le_iff (by decide) hw).mpr h
  rw [padded, List.length_append, List.length_replicate]
  omega

/-- **A run of digits** is its number in as many digits. -/
theorem padded_value {cs : List Char} (some : cs ≠ []) (hc : ∀ c ∈ cs, c.isDigit = true) :
    padded cs.length (value cs) = cs :=
  eq_of_value_eq (length_padded (List.length_pos_iff.mpr some) (value_lt hc))
    (fun _ => isDigit_of_mem_padded) hc (value_padded _ _)

/-- **A number of fixed width in front** of two texts, and a mark after it, decide their order,
and where the numbers are the same, what follows does. -/
theorem padded_cons_lt (hw : 0 < width) (hm : m < 10 ^ width) (hn : n < 10 ^ width) (mark : Char)
    {cs ds : List Char} (h : m < n ∨ m = n ∧ cs < ds) :
    padded width m ++ mark :: cs < padded width n ++ mark :: ds := by
  rcases h with hlt | ⟨rfl, hlt⟩
  · refine append_lt_of_value_lt ?_ (fun _ => isDigit_of_mem_padded)
      (fun _ => isDigit_of_mem_padded) ?_ _ _
    · rw [length_padded hw hm, length_padded hw hn]
    · rw [value_padded, value_padded]
      exact hlt
  · exact List.append_left_lt (List.cons_lt_cons_self.mpr hlt)

end Padded

end Decimal

/-! ## Instants in time -/

namespace Time

namespace Instant

/-- **The order of time.** A leap second comes after the second with which it is counted and
before the next one. -/
instance : LE Instant :=
  ⟨fun s t => s.seconds < t.seconds ∨ s.seconds = t.seconds ∧ s.nanos ≤ t.nanos⟩

theorem le_def {s t : Instant} :
    s ≤ t ↔ s.seconds < t.seconds ∨ s.seconds = t.seconds ∧ s.nanos ≤ t.nanos :=
  Iff.rfl

variable (t : Instant)

/-- **A proper instant**: its nanoseconds stay within its second, or within a leap second, which
only the last second of a minute has. -/
structure Proper : Prop where
  nanos_lt : t.nanos < 2000000000
  minute_ends : t.isLeapSecond = true → t.seconds % 60 = 59

/-- The year of an instant. -/
def year : Int :=
  (Date.ofDays t.day).year

/-- **The years of four digits**, from 0 to 9999. -/
def InYears : Prop :=
  0 ≤ t.year ∧ t.year ≤ 9999

/-- The instant cut to whole milliseconds. -/
def truncated : Instant :=
  ⟨t.seconds, t.nanos / 1000000 * 1000000⟩

/-- What the text of an instant adds to its second, and the nanoseconds that it shows. -/
def shown : Nat × Nat :=
  if t.isLeapSecond then (1, t.nanos - 1000000000) else (0, t.nanos)

/-- The hour that the text shows. -/
def shownHour : Nat :=
  t.secondOfDay.toNat / 3600

/-- The minute that the text shows. -/
def shownMinute : Nat :=
  t.secondOfDay.toNat / 60 % 60

/-- The second that the text shows, 60 in a leap second. -/
def shownSecond : Nat :=
  t.secondOfDay.toNat % 60 + t.shown.1

/-- The milliseconds that the text shows. -/
def shownMillis : Nat :=
  t.shown.2 / 1000000

variable {s t : Instant}

/-- **The text of an instant**, number by number. -/
theorem toList_toIso (t : Instant) :
    t.toIso.toList = yearText t.year ++ '-' :: (Decimal.padded 2 (Date.ofDays t.day).month ++
      '-' :: (Decimal.padded 2 (Date.ofDays t.day).day ++
      'T' :: (Decimal.padded 2 t.shownHour ++ ':' :: (Decimal.padded 2 t.shownMinute ++
      ':' :: (Decimal.padded 2 t.shownSecond ++
      '.' :: (Decimal.padded 3 t.shownMillis ++ ['Z'])))))) := by
  unfold shownHour shownMinute shownSecond shownMillis
  rw [toIso, ← shown]
  obtain ⟨leap, nanos⟩ := t.shown
  simp only [String.toList_ofList, List.append_assoc, List.cons_append, year]

theorem shown_of_leap (h : t.isLeapSecond = true) : t.shown = (1, t.nanos - 1000000000) := by
  rw [shown, if_pos h]

theorem shown_of_not_leap (h : t.isLeapSecond = false) : t.shown = (0, t.nanos) := by
  rw [shown, h]
  rfl

theorem isLeapSecond_iff : t.isLeapSecond = true ↔ 1000000000 ≤ t.nanos := by
  rw [isLeapSecond, decide_eq_true_iff]

/-- The second and the nanoseconds shown, in and outside of a leap second. -/
theorem Proper.shown_cases (h : t.Proper) :
    (t.shown.1 = 1 ∧ t.shown.2 + 1000000000 = t.nanos ∧ t.shown.2 < 1000000000 ∧
      t.seconds % 60 = 59) ∨
    (t.shown.1 = 0 ∧ t.shown.2 = t.nanos ∧ t.nanos < 1000000000) := by
  have upper := h.nanos_lt
  cases leap : t.isLeapSecond with
  | true =>
    have lower := isLeapSecond_iff.mp leap
    rw [shown_of_leap leap]
    exact .inl ⟨rfl, by omega, by omega, h.minute_ends leap⟩
  | false =>
    have lower : ¬ 1000000000 ≤ t.nanos := fun h' => by simp [isLeapSecond_iff.mpr h'] at leap
    rw [shown_of_not_leap leap]
    exact .inr ⟨rfl, rfl, by omega⟩

theorem secondOfDay_bounds (t : Instant) : 0 ≤ t.secondOfDay ∧ t.secondOfDay < 86400 := by
  rw [secondOfDay]
  omega

/-- A later millisecond of the same day is later hour by hour, minute by minute, second by second
and millisecond by millisecond. -/
theorem shown_lt (hs : s.Proper) (ht : t.Proper)
    (h : s.secondOfDay < t.secondOfDay ∨
      s.secondOfDay = t.secondOfDay ∧ s.nanos / 1000000 < t.nanos / 1000000) :
    s.shownHour < t.shownHour ∨ s.shownHour = t.shownHour ∧
      (s.shownMinute < t.shownMinute ∨ s.shownMinute = t.shownMinute ∧
        (s.shownSecond < t.shownSecond ∨ s.shownSecond = t.shownSecond ∧
          s.shownMillis < t.shownMillis)) := by
  have bs := secondOfDay_bounds s
  have bt := secondOfDay_bounds t
  have es : s.secondOfDay % 60 = s.seconds % 60 := by rw [secondOfDay]; omega
  unfold shownHour shownMinute shownSecond shownMillis
  -- a leap second is written with the number 60, and no second of its minute comes after it
  rcases hs.shown_cases with ⟨a, b, c, d⟩ | ⟨a, b, c⟩ <;>
    rcases ht.shown_cases with ⟨a', b', c', d'⟩ | ⟨a', b', c'⟩ <;>
      omega

theorem yearText_of_inYears (h : t.InYears) : yearText t.year = Decimal.padded 4 t.year.toNat := by
  rw [yearText, if_pos (by simpa [InYears] using h)]

theorem Proper.shown_bounds (h : t.Proper) :
    t.shownHour < 10 ^ 2 ∧ t.shownMinute < 10 ^ 2 ∧ t.shownSecond < 10 ^ 2 ∧
      t.shownMillis < 10 ^ 3 := by
  have day := secondOfDay_bounds t
  unfold shownHour shownMinute shownSecond shownMillis
  rcases h.shown_cases with ⟨a, b, c, d⟩ | ⟨a, b, c⟩ <;> omega

theorem date_bounds (t : Instant) :
    (Date.ofDays t.day).month < 10 ^ 2 ∧ (Date.ofDays t.day).day < 10 ^ 2 := by
  have valid := (Date.toDays_ofDays t.day).1
  have month := (Date.isValid_iff.mp valid).2.1
  have day := Date.day_le valid
  omega

/-- **A later millisecond has a greater text.** -/
theorem toIso_lt (hs : s.Proper) (ht : t.Proper) (hys : s.InYears) (hyt : t.InYears)
    (h : s.seconds < t.seconds ∨ s.seconds = t.seconds ∧ s.nanos / 1000000 < t.nanos / 1000000) :
    s.toIso < t.toIso := by
  obtain ⟨hourS, minuteS, secondS, millisS⟩ := hs.shown_bounds
  obtain ⟨hourT, minuteT, secondT, millisT⟩ := ht.shown_bounds
  have dateS := date_bounds s
  have dateT := date_bounds t
  have yearS : s.year.toNat < 10 ^ 4 := by unfold InYears at hys; omega
  have yearT : t.year.toNat < 10 ^ 4 := by unfold InYears at hyt; omega
  rw [String.lt_iff_toList_lt, toList_toIso, toList_toIso, yearText_of_inYears hys,
    yearText_of_inYears hyt]
  have days : s.day < t.day ∨ s.day = t.day := by
    unfold day
    omega
  rcases days with hday | hday
  · unfold InYears at hys hyt
    rcases Date.before_ofDays hday with hy | ⟨hy, hm | ⟨hm, hd⟩⟩
    · exact Decimal.padded_cons_lt (by decide) yearS yearT _ (.inl (by unfold year at *; omega))
    · refine Decimal.padded_cons_lt (by decide) yearS yearT _ (.inr ⟨congrArg Int.toNat hy, ?_⟩)
      exact Decimal.padded_cons_lt (by decide) dateS.1 dateT.1 _ (.inl hm)
    · refine Decimal.padded_cons_lt (by decide) yearS yearT _ (.inr ⟨congrArg Int.toNat hy, ?_⟩)
      refine Decimal.padded_cons_lt (by decide) dateS.1 dateT.1 _ (.inr ⟨hm, ?_⟩)
      exact Decimal.padded_cons_lt (by decide) dateS.2 dateT.2 _ (.inl hd)
  · have clock : s.secondOfDay < t.secondOfDay ∨
        s.secondOfDay = t.secondOfDay ∧ s.nanos / 1000000 < t.nanos / 1000000 := by
      unfold day at hday
      unfold secondOfDay
      omega
    rw [year, year, hday]
    refine List.append_left_lt (List.cons_lt_cons_self.mpr ?_)
    refine List.append_left_lt (List.cons_lt_cons_self.mpr ?_)
    refine List.append_left_lt (List.cons_lt_cons_self.mpr ?_)
    refine Decimal.padded_cons_lt (by decide) hourS hourT _ ?_
    refine (shown_lt hs ht clock).imp_right (And.imp_right fun minute => ?_)
    refine Decimal.padded_cons_lt (by decide) minuteS minuteT _ ?_
    refine minute.imp_right (And.imp_right fun second => ?_)
    refine Decimal.padded_cons_lt (by decide) secondS secondT _ ?_
    refine second.imp_right (And.imp_right fun millis => ?_)
    exact Decimal.padded_cons_lt (by decide) millisS millisT 'Z' (.inl millis)

/-- Instants of one millisecond have one text. -/
theorem toIso_congr (hs : s.Proper) (ht : t.Proper) (hsec : s.seconds = t.seconds)
    (hmillis : s.nanos / 1000000 = t.nanos / 1000000) : s.toIso = t.toIso := by
  have hday : s.day = t.day := by rw [day, day, hsec]
  have hclock : s.secondOfDay = t.secondOfDay := by rw [secondOfDay, secondOfDay, hsec]
  have hshown : s.shown.1 = t.shown.1 ∧ s.shown.2 / 1000000 = t.shown.2 / 1000000 := by
    rcases hs.shown_cases with ⟨a, b, c, d⟩ | ⟨a, b, c⟩ <;>
      rcases ht.shown_cases with ⟨a', b', c', d'⟩ | ⟨a', b', c'⟩ <;> omega
  apply String.toList_inj.mp
  rw [toList_toIso, toList_toIso]
  simp only [year, shownHour, shownMinute, shownSecond, shownMillis, hday, hclock, hshown]

/-- **The order of texts is the order of time**, up to the milliseconds that a text shows. -/
theorem toIso_le_iff (hs : s.Proper) (ht : t.Proper) (hys : s.InYears) (hyt : t.InYears) :
    s.toIso ≤ t.toIso ↔ s.truncated ≤ t.truncated := by
  have cut : s.truncated ≤ t.truncated ↔ s.seconds < t.seconds ∨
      s.seconds = t.seconds ∧ s.nanos / 1000000 ≤ t.nanos / 1000000 := by
    rw [le_def, truncated, truncated]
    dsimp only
    omega
  rw [cut]
  constructor
  · intro h
    by_contra later
    exact absurd (toIso_lt ht hs hyt hys (by omega)) (not_lt.mpr h)
  · rintro (hlt | ⟨hsec, hmillis⟩)
    · exact (toIso_lt hs ht hys hyt (.inl hlt)).le
    · rcases hmillis.lt_or_eq with hlt | heq
      · exact (toIso_lt hs ht hys hyt (.inr ⟨hsec, hlt⟩)).le
      · exact (toIso_congr hs ht hsec heq).le

theorem truncated_mono (h : s ≤ t) : s.truncated ≤ t.truncated := by
  rw [le_def] at h
  rw [le_def, truncated, truncated]
  dsimp only
  omega

/-! ## What a text begins with -/

/-- **The text of an instant** of any year begins with a digit or a sign. -/
theorem head_toIso (t : Instant) :
    ∃ c rest, t.toIso.toList = c :: rest ∧ '+'.toNat ≤ c.toNat ∧ c.toNat ≤ '9'.toNat := by
  rw [toList_toIso, yearText]
  split
  · obtain ⟨c, rest, hyear⟩ := List.exists_cons_of_ne_nil (l := Decimal.padded 4 t.year.toNat)
      (List.append_ne_nil_of_right_ne_nil _ (Decimal.digits_ne_nil _))
    have digit := (Decimal.isDigit_iff c).mp
      (Decimal.isDigit_of_mem_padded (hyear ▸ List.mem_cons_self))
    rw [hyear]
    exact ⟨c, _, rfl, (show '+'.toNat ≤ '0'.toNat by decide).trans digit.1, digit.2⟩
  · split
    · exact ⟨'-', _, rfl, by decide, by decide⟩
    · exact ⟨'+', _, rfl, by decide, by decide⟩

end Instant

end Time

end CallMeter
