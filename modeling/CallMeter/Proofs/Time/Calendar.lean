import CallMeter.Time.Calendar
import Mathlib.Algebra.BigOperators.Group.List.Basic
import Mathlib.Algebra.Order.BigOperators.Group.List
import Mathlib.Algebra.Order.Ring.Nat

/-!
# Dates and their numbers

The number of a date and the date of a number undo each other. So the days of the calendar stand
in the order of their dates: a later day has a later year, or the same year and a later month, or
the same month and a later day of it.

## Main definitions

* `Date.Before`: the order of dates by year, month and day
* `Date.dayOfYear`: the days of a year before a date

## Main results

* `yearDay_spec`: the year of a day, and the days of that year before it
* `monthDay_spec`: the month of a day of the year, and its day
* `toDays_ofDays`: a number is that of its date, which exists
* `toDays_lt`: dates that exist are numbered in their order
* `before_ofDays`: a later day has a later date
-/

namespace CallMeter.Time

/-! ## Years -/

theorem isLeap_iff (year : Int) :
    isLeap year = true ↔ year % 4 = 0 ∧ (year % 100 ≠ 0 ∨ year % 400 = 0) := by
  simp [isLeap]

theorem daysBeforeYear_succ (year : Int) :
    daysBeforeYear (year + 1) = daysBeforeYear year + yearLength year := by
  simp only [daysBeforeYear, yearLength, isLeap_iff]
  by_cases h : year % 4 = 0 ∧ (year % 100 ≠ 0 ∨ year % 400 = 0)
  · rw [if_pos h]
    omega
  · rw [if_neg h]
    omega

theorem daysBeforeYear_mono {year year' : Int} (h : year ≤ year') :
    daysBeforeYear year ≤ daysBeforeYear year' := by
  simp only [daysBeforeYear]
  omega

section Cycles

variable (era : Int) {century four single : Int} (hc : 0 ≤ century ∧ century ≤ 3)
  (hf : 0 ≤ four ∧ four ≤ 24) (hs : 0 ≤ single ∧ single ≤ 3)
include hc hf hs

/-- The days before a year, cycle by cycle. -/
theorem daysBeforeYear_of_cycles :
    daysBeforeYear (400 * era + 100 * century + 4 * four + single + 1) =
      146097 * era + 36524 * century + 1461 * four + 365 * single := by
  have fours : (400 * era + 100 * century + 4 * four + single) / 4 =
      100 * era + 25 * century + four := by omega
  have centuries : (400 * era + 100 * century + 4 * four + single) / 100 =
      4 * era + century := by omega
  have eras : (400 * era + 100 * century + 4 * four + single) / 400 = era := by omega
  rw [daysBeforeYear, Int.add_sub_cancel]
  simp only [fours, centuries, eras]
  omega

/-- The last year of four is a leap year, unless it ends one of the first three centuries. -/
theorem yearLength_of_cycles :
    yearLength (400 * era + 100 * century + 4 * four + single + 1) =
      if single = 3 ∧ (four ≠ 24 ∨ century = 3) then 366 else 365 := by
  have leap : isLeap (400 * era + 100 * century + 4 * four + single + 1) = true ↔
      single = 3 ∧ (four ≠ 24 ∨ century = 3) := by
    have fourth : (400 * era + 100 * century + 4 * four + single + 1) % 4 = 0 ↔ single = 3 := by
      omega
    have hundredth : (400 * era + 100 * century + 4 * four + single + 1) % 100 = 0 ↔
        single = 3 ∧ four = 24 := by omega
    have last : (400 * era + 100 * century + 4 * four + single + 1) % 400 = 0 ↔
        single = 3 ∧ four = 24 ∧ century = 3 := by omega
    rw [isLeap_iff, fourth, ne_eq, hundredth, last]
    tauto
  rw [yearLength, if_congr leap rfl rfl]

end Cycles

/-- **The year of a day** and the days of that year before it, which are fewer than it has. -/
theorem yearDay_spec (n : Int) :
    daysBeforeYear (yearDay n).1 + (yearDay n).2 = n ∧
      (yearDay n).2 < yearLength (yearDay n).1 := by
  have era := Int.emod_add_mul_ediv n 146097
  have lower := Int.emod_nonneg n (b := 146097) (by decide)
  have upper := Int.emod_lt_of_pos n (b := 146097) (by decide)
  unfold yearDay
  dsimp only
  generalize n % 146097 = inEra at *
  generalize hcentury : min (inEra / 36524) 3 = century at *
  generalize hfour : (inEra - 36524 * century) / 1461 = four at *
  generalize hsingle : min ((inEra - 36524 * century - 1461 * four) / 365) 3 = single at *
  have hc : 0 ≤ century ∧ century ≤ 3 := by omega
  have hf : 0 ≤ four ∧ four ≤ 24 := by omega
  have hs : 0 ≤ single ∧ single ≤ 3 := by omega
  rw [daysBeforeYear_of_cycles _ hc hf hs, yearLength_of_cycles _ hc hf hs]
  -- the last day of a long cycle belongs to its last year, as the two minima say
  constructor
  · omega
  · split <;> omega

/-! ## Months -/

theorem sum_monthLengths_eq (year : Int) : (monthLengths year).sum = yearLength year := by
  rw [List.sum_eq_foldl, sum_monthLengths]

theorem daysBeforeMonth_eq (year : Int) (month : Nat) :
    daysBeforeMonth year month = ((monthLengths year).take (month - 1)).sum := by
  rw [daysBeforeMonth, List.sum_eq_foldl]

/-- **The month of a day** among some months, and its day there. -/
theorem monthDay_spec (first : Nat) {lengths : List Nat} {n : Nat} (h : n < lengths.sum) :
    ∃ i length, lengths[i]? = some length ∧ (monthDay first lengths n).1 = first + i ∧
      1 ≤ (monthDay first lengths n).2 ∧ (monthDay first lengths n).2 ≤ length ∧
      (lengths.take i).sum + ((monthDay first lengths n).2 - 1) = n := by
  induction lengths generalizing first n with
  | nil => exact absurd h (Nat.not_lt_zero n)
  | cons length rest ih =>
    rw [List.sum_cons] at h
    rw [monthDay]
    split
    · next here =>
      exact ⟨0, length, rfl, rfl, Nat.succ_pos n, here, by simp⟩
    · next later =>
      obtain ⟨i, length', hi, hmonth, hpos, hle, hsum⟩ :=
        ih (first + 1) (n := n - length) (by omega)
      refine ⟨i + 1, length', hi, by omega, hpos, hle, ?_⟩
      rw [List.take_succ_cons, List.sum_cons]
      omega

/-! ## Dates -/

namespace Date

variable {d e : Date}

theorem isValid_iff :
    d.isValid = true ↔ 1 ≤ d.month ∧ d.month ≤ 12 ∧ 1 ≤ d.day ∧
      ∃ length, (monthLengths d.year)[d.month - 1]? = some length ∧ d.day ≤ length := by
  rw [isValid]
  cases (monthLengths d.year)[d.month - 1]? <;> simp [and_assoc]

/-- The days of the year before a date. -/
def dayOfYear (d : Date) : Nat :=
  daysBeforeMonth d.year d.month + (d.day - 1)

theorem toDays_eq (h : 1 ≤ d.day) :
    d.toDays = firstDay + daysBeforeYear d.year + d.dayOfYear := by
  rw [toDays, dayOfYear]
  omega

/-- The days of a year before a date are fewer than those before the end of its month. -/
theorem dayOfYear_lt_of_length {length : Nat}
    (hl : (monthLengths d.year)[d.month - 1]? = some length) (hd : 1 ≤ d.day ∧ d.day ≤ length) :
    d.dayOfYear < ((monthLengths d.year).take (d.month - 1 + 1)).sum := by
  obtain ⟨inYear, rfl⟩ := List.getElem?_eq_some_iff.mp hl
  rw [List.sum_take_succ _ _ inYear, dayOfYear, daysBeforeMonth_eq]
  omega

theorem dayOfYear_lt (h : d.isValid = true) : d.dayOfYear < yearLength d.year := by
  obtain ⟨-, -, hd, length, hl, hle⟩ := isValid_iff.mp h
  refine (dayOfYear_lt_of_length hl ⟨hd, hle⟩).trans_le ?_
  rw [← sum_monthLengths_eq]
  exact (List.take_sublist _ _).sum_le_sum (fun _ _ => Nat.zero_le _)

/-- No month has more than 31 days. -/
theorem day_le (h : d.isValid = true) : d.day ≤ 31 := by
  obtain ⟨-, -, -, length, hl, hle⟩ := isValid_iff.mp h
  have bound : ∀ n ∈ monthLengths d.year, n ≤ 31 := by
    unfold monthLengths
    cases isLeap d.year <;> decide
  exact hle.trans (bound length (List.mem_of_getElem? hl))

/-- **The order of dates**: by year, then by month, then by day. -/
def Before (d e : Date) : Prop :=
  d.year < e.year ∨ d.year = e.year ∧ (d.month < e.month ∨ d.month = e.month ∧ d.day < e.day)

theorem before_trichotomy (d e : Date) : d.Before e ∨ d = e ∨ e.Before d := by
  obtain ⟨y, m, n⟩ := d
  obtain ⟨y', m', n'⟩ := e
  simp only [Before, Date.mk.injEq]
  omega

/-- **Dates that exist are numbered in their order.** -/
theorem toDays_lt (hd : d.isValid = true) (he : e.isValid = true) (h : d.Before e) :
    d.toDays < e.toDays := by
  obtain ⟨hm, -, hday, length, hl, hle⟩ := isValid_iff.mp hd
  obtain ⟨-, -, hday', -⟩ := isValid_iff.mp he
  rw [toDays_eq hday, toDays_eq hday']
  rcases h with hyear | ⟨hyear, hmonth | ⟨hmonth, hdays⟩⟩
  · have ended := daysBeforeYear_mono (Int.add_one_le_of_lt hyear)
    rw [daysBeforeYear_succ] at ended
    have inYear := dayOfYear_lt hd
    omega
  · have inMonth := dayOfYear_lt_of_length hl ⟨hday, hle⟩
    have ended : ((monthLengths d.year).take (d.month - 1 + 1)).sum ≤
        ((monthLengths d.year).take (e.month - 1)).sum :=
      List.monotone_sum_take _ (show d.month - 1 + 1 ≤ e.month - 1 by omega)
    have inYear : ((monthLengths d.year).take (e.month - 1)).sum ≤ e.dayOfYear := by
      rw [dayOfYear, daysBeforeMonth_eq, hyear]
      exact Nat.le_add_right _ _
    rw [hyear]
    omega
  · rw [dayOfYear, dayOfYear, hyear, hmonth]
    omega

/-- **The date of a number** exists and has that number. -/
theorem toDays_ofDays (n : Int) : (ofDays n).isValid = true ∧ (ofDays n).toDays = n := by
  obtain ⟨hyear, hday⟩ := yearDay_spec (n - firstDay)
  rw [← sum_monthLengths_eq] at hday
  obtain ⟨i, length, hi, hmonth, hpos, hle, hsum⟩ := monthDay_spec 1 hday
  have date : ofDays n = ⟨(yearDay (n - firstDay)).1,
      (monthDay 1 (monthLengths (yearDay (n - firstDay)).1) (yearDay (n - firstDay)).2).1,
      (monthDay 1 (monthLengths (yearDay (n - firstDay)).1) (yearDay (n - firstDay)).2).2⟩ := rfl
  rw [date, hmonth]
  have inYear : i < 12 := (List.getElem?_eq_some_iff.mp hi).1
  constructor
  · refine isValid_iff.mpr ⟨Nat.le_add_right 1 i, by show 1 + i ≤ 12; omega, hpos, length, ?_, hle⟩
    rwa [Nat.add_sub_cancel_left]
  · rw [toDays_eq hpos, dayOfYear, daysBeforeMonth_eq, Nat.add_sub_cancel_left, hsum]
    show firstDay + daysBeforeYear (yearDay (n - firstDay)).1 + _ = n
    omega

/-- **A later day has a later date.** -/
theorem before_ofDays {m n : Int} (h : m < n) : (ofDays m).Before (ofDays n) := by
  obtain ⟨hm, em⟩ := toDays_ofDays m
  obtain ⟨hn, en⟩ := toDays_ofDays n
  rcases before_trichotomy (ofDays m) (ofDays n) with hlt | heq | hgt
  · exact hlt
  · rw [← em, ← en, heq] at h
    exact absurd h (lt_irrefl _)
  · have := toDays_lt hn hm hgt
    omega

/-- A later day is in no earlier year. -/
theorem year_ofDays_mono {m n : Int} (h : m ≤ n) : (ofDays m).year ≤ (ofDays n).year := by
  rcases h.lt_or_eq with hlt | rfl
  · rcases before_ofDays hlt with hyear | ⟨hyear, -⟩
    · exact hyear.le
    · exact hyear.le
  · exact le_refl _

end Date

end CallMeter.Time
