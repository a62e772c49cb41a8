import CallMeter.Proofs.Time.Calendar
import Mathlib.Algebra.BigOperators.Intervals
import Mathlib.Algebra.Order.BigOperators.Group.Finset
import Mathlib.Tactic.IntervalCases

/-!
# Days counted by years and months

The number of a date can be had without any formula: the lengths of the years before its year are
added up, then the lengths of the months before its month, then the days before its day. This is
done here from year 0 on, for the years that a timestamp can name.

## Main definitions

* `LeapYear`, `daysInMonth`, `daysInYear`: the rule of the calendar
* `daysBefore`: the days before a date, from 1 January of year 0 on

## Main results

* `isValid_iff_le_daysInMonth`: the dates that exist are those that the lengths of months allow
* `toDays_eq_daysBefore`: the number of a date is the count of the days before it
-/

namespace CallMeter.Time

/-- **Leap years**: every fourth year, but of the years that end a century every fourth one. -/
def LeapYear (year : ℕ) : Prop :=
  4 ∣ year ∧ (100 ∣ year → 400 ∣ year)

instance : DecidablePred LeapYear := fun _ => inferInstanceAs (Decidable (_ ∧ (_ → _)))

/-- The days of a month. -/
def daysInMonth (year month : ℕ) : ℕ :=
  if month = 2 then if LeapYear year then 29 else 28
  else if month ∈ [4, 6, 9, 11] then 30 else 31

/-- The days of a year: those of its months. -/
def daysInYear (year : ℕ) : ℕ :=
  ∑ month ∈ Finset.Icc 1 12, daysInMonth year month

/-- **The days before a date**, counted from 1 January of year 0: whole years, then whole months,
then days. -/
def daysBefore (year month day : ℕ) : ℕ :=
  ∑ y ∈ Finset.range year, daysInYear y + ∑ m ∈ Finset.Ico 1 month, daysInMonth year m + (day - 1)

theorem daysInMonth_le (year month : ℕ) : daysInMonth year month ≤ 31 := by
  unfold daysInMonth
  split_ifs <;> decide

/-- A generous bound, for which every month may have 31 days. -/
theorem daysBefore_lt {year month day : ℕ} (hy : year ≤ 9999) (hm : month ≤ 12)
    (hd : day ≤ daysInMonth year month) : daysBefore year month day < 372 * 10000 := by
  have years : ∑ y ∈ Finset.range year, daysInYear y ≤ year * 372 := by
    have bound := Finset.sum_le_card_nsmul (Finset.range year) daysInYear 372 fun y _ =>
      Finset.sum_le_card_nsmul _ _ 31 fun m _ => daysInMonth_le y m
    rwa [Finset.card_range] at bound
  have months : ∑ m ∈ Finset.Ico 1 month, daysInMonth year m ≤ (month - 1) * 31 := by
    have bound := Finset.sum_le_card_nsmul (Finset.Ico 1 month) (daysInMonth year) 31 fun m _ =>
      daysInMonth_le year m
    rwa [Nat.card_Ico] at bound
  have days := daysInMonth_le year month
  unfold daysBefore
  omega

theorem isLeap_natCast (year : ℕ) : isLeap year = true ↔ LeapYear year := by
  rw [isLeap_iff, LeapYear]
  omega

/-- The lengths of the months, month by month. -/
theorem getElem?_monthLengths (year i : ℕ) :
    (monthLengths year)[i]? = if i < 12 then some (daysInMonth year (i + 1)) else none := by
  have leap := isLeap_natCast year
  split
  · interval_cases i <;> simp [monthLengths, daysInMonth, leap]
  · exact List.getElem?_eq_none (by show 12 ≤ i; omega)

theorem sum_take_monthLengths (year : ℕ) {n : ℕ} (h : n ≤ 12) :
    ((monthLengths year).take n).sum = ∑ m ∈ Finset.Ico 1 (n + 1), daysInMonth year m := by
  induction n with
  | zero => rfl
  | succ n ih =>
    have inYear : n < (monthLengths year).length := h
    have month : (monthLengths year)[n] = daysInMonth year (n + 1) := by
      have := getElem?_monthLengths year n
      rwa [if_pos (Nat.lt_of_succ_le h), List.getElem?_eq_getElem inYear, Option.some_inj] at this
    rw [List.sum_take_succ _ _ inYear, ih (Nat.le_of_succ_le h), month,
      Finset.sum_Ico_succ_top (Nat.le_add_left 1 n)]

theorem yearLength_natCast (year : ℕ) : yearLength year = daysInYear year := by
  have all := sum_take_monthLengths year (le_refl 12)
  rw [List.take_of_length_le (le_refl 12), sum_monthLengths_eq] at all
  exact all

/-- Year 0 is a leap year, and the days before year 1 are not counted otherwise. -/
theorem daysBeforeYear_natCast (year : ℕ) :
    daysBeforeYear year + 366 = ∑ y ∈ Finset.range year, daysInYear y := by
  induction year with
  | zero => rfl
  | succ year ih =>
    rw [Finset.sum_range_succ, Nat.cast_succ, daysBeforeYear_succ, yearLength_natCast,
      Nat.cast_add, ← ih]
    omega

namespace Date

variable {year month day : ℕ}

/-- **The dates that exist** are those that the lengths of months allow. -/
theorem isValid_iff_le_daysInMonth :
    (Date.mk year month day).isValid = true ↔
      (1 ≤ month ∧ month ≤ 12) ∧ 1 ≤ day ∧ day ≤ daysInMonth year month := by
  rw [isValid_iff]
  dsimp only
  rw [getElem?_monthLengths]
  constructor
  · rintro ⟨hm, hm', hd, length, hl, hle⟩
    rw [if_pos (by omega), Nat.sub_add_cancel hm] at hl
    obtain rfl := Option.some.inj hl
    exact ⟨⟨hm, hm'⟩, hd, hle⟩
  · rintro ⟨⟨hm, hm'⟩, hd, hle⟩
    refine ⟨hm, hm', hd, _, ?_, hle⟩
    rw [if_pos (by omega), Nat.sub_add_cancel hm]

/-- **The number of a date** is the count of the days before it. The first day of 1970 has 719528
days before it. -/
theorem toDays_eq_daysBefore (hm : 1 ≤ month ∧ month ≤ 12) (hd : 1 ≤ day) :
    (Date.mk year month day).toDays = daysBefore year month day - 719528 := by
  have years := daysBeforeYear_natCast year
  have months := sum_take_monthLengths year (n := month - 1) (by omega)
  rw [Nat.sub_add_cancel hm.1] at months
  rw [toDays_eq hd, dayOfYear, daysBeforeMonth_eq, firstDay, daysBefore, months]
  push_cast at years ⊢
  omega

end Date

end CallMeter.Time
