import CallMeter.Proofs.Decimal.WholeNumbers
import CallMeter.Proofs.Double.Whole
import CallMeter.Usage.Window

/-!
# Days as text

A whole number of days is read as the double nearest to it and kept between one and ninety by the
whole part of that. This gives the number itself, kept in bounds, as long as the double is finite;
a number with too many digits for that counts as one day.

## Main results

* `clampDaysText_of_within`: the days that a whole number counts as
* `clampDaysText_whole`: which whole numbers are kept in bounds by their value
-/

namespace CallMeter

open Decimal (WholeText ofDecimal)
open Double

/-- Days past the most are as many as the most. -/
theorem clampDays_of_ge {days : Int} (h : maxDays ≤ days) : clampDays days = maxDays := by
  simp only [clampDays, minDays, maxDays] at *
  omega

theorem clampDays_of_le {days : Int} (h : days ≤ minDays) : clampDays days = minDays := by
  simp only [clampDays, minDays, maxDays] at *
  omega

/-- **The whole part of a rounded number of days** is kept in bounds as the number itself is. -/
theorem clampDays_toUInt64 {x : Float} {n : ℕ} (h : Unsigned x) (hx : value x = nearest n) :
    clampDays x.toUInt64.toNat = clampDays n := by
  rw [toNat_toUInt64 h, hx]
  rcases Nat.lt_or_ge n (2 ^ 53) with few | many
  · have word : min n (UInt64.size - 1) = n :=
      min_eq_left (Nat.le_sub_one_of_lt (few.trans (by decide)))
    rw [nearest_natCast_of_lt few, Nat.floor_natCast, word]
  · have large : 2 ^ 53 ≤ ⌊nearest n⌋₊ := by
      refine Nat.le_floor ?_
      have power := zpow_le_nearest (z := n) (k := 53) (by norm_num) (by exact_mod_cast many)
      exact_mod_cast power
    have past : maxDays ≤ 2 ^ 53 := by decide
    have word : maxDays ≤ UInt64.size - 1 := by decide
    rw [clampDays_of_ge, clampDays_of_ge]
    · exact_mod_cast past.trans many
    · exact_mod_cast le_min (past.trans large) word

/-- The days of a text that is read as a double. -/
theorem clampDaysText_of_read {text trimmed : String} (ht : Text.trim text = trimmed)
    (some : trimmed ≠ "") {x : Float} (read : Decimal.readFloat? trimmed = .some x) :
    clampDaysText (.some text) =
      if x.isFinite then (if x < 1.0 then minDays else clampDays x.toUInt64.toNat)
      else minDays := by
  have kept : ((Option.some text).map Text.trim).filter (fun s => !s.isEmpty) = .some trimmed := by
    rw [Option.map_some, ht]
    simp [Option.filter, some]
  rw [clampDaysText, kept]
  dsimp only
  rw [read]

/-- **Whole numbers of days** are kept in bounds as far as they are rounded to a finite double,
and count as one from there on. -/
theorem clampDaysText_of_within {w : WholeText} {text : String} (h : w.Within text) :
    clampDaysText (some text) =
      if w.number < overflow then clampDays w.number else minDays := by
  obtain ⟨x, hx⟩ : ∃ x, ofDecimal (Decimal.value w.digits) 0 = x := ⟨_, rfl⟩
  have rounded : IsNearest x (Decimal.value w.digits) := hx ▸ isNearest_ofDecimal _
  have finite : x.isFinite = true ↔ (Decimal.value w.digits : ℤ) < overflow := by
    rw [rounded.isFinite_iff, nearest_lt_iff (Nat.cast_nonneg _), Nat.cast_lt, Nat.cast_lt]
  have some : String.ofList w.chars ≠ "" := by
    rw [Ne, String.ofList_eq_empty_iff]
    exact w.chars_ne_nil
  have read := Decimal.readFloat?_chars w
  simp only [hx] at read
  rw [clampDaysText_of_read h.trim_eq some read]
  by_cases minus : w.sign = .minus
  · have few : w.number ≤ minDays := by
      rw [w.number_of_minus minus, minDays]
      omega
    rw [if_pos minus, clampDays_of_le few, ite_self, isFinite_neg]
    split_ifs with fin
    · rfl
    · next large => exact absurd (neg_lt_one (rounded.unsigned fin)) large
    · rfl
  · rw [if_neg minus, w.number_of_ne_minus minus]
    by_cases fin : x.isFinite = true
    · have unsigned := rounded.unsigned fin
      have number := rounded.value_eq fin
      rw [if_pos fin, if_pos (finite.mp fin)]
      split_ifs with none
      · -- only zero is rounded to a double below one
        rw [lt_iff_value_lt unsigned unsigned_one, value_one, number] at none
        have zero : Decimal.value w.digits < 1 := by
          by_contra one
          exact absurd (one_le_nearest (by exact_mod_cast not_lt.mp one)) (not_le.mpr none)
        rw [clampDays_of_le]
        rw [minDays]
        omega
      · exact clampDays_toUInt64 unsigned number
    · rw [if_neg fin, if_neg (fun small => fin (finite.mpr small))]

/-- **Whole numbers of days are clamped by their value** as long as they are rounded to a finite
double, however many digits they have. -/
theorem clampDaysText_whole {w : WholeText} {text : String} (h : w.Within text) :
    ((clampDaysText (some text) : ℤ) = max 1 (min 90 w.number) ↔ w.number < overflow) ∧
    (overflow ≤ w.number → clampDaysText (some text) = 1) ∧
    ∀ {w' : WholeText} {text' : String}, w'.Within text' → w.number ≤ w'.number →
      w'.number < overflow → clampDaysText (some text) ≤ clampDaysText (some text') := by
  have clamped (n : ℤ) : (clampDays n : ℤ) = max 1 (min 90 n) := by
    simp only [clampDays, minDays, maxDays]
    omega
  have past : (90 : ℤ) ≤ overflow := by
    have words : 90 ≤ UInt64.size := by decide
    exact_mod_cast words.trans overflow_bounds.1
  refine ⟨?_, ?_, ?_⟩
  · rw [clampDaysText_of_within h]
    split_ifs with small
    · exact iff_of_true (clamped _) small
    · rw [minDays]
      omega
  · intro large
    rw [clampDaysText_of_within h, if_neg (not_lt.mpr large), minDays]
  · intro w' text' h' more small
    rw [clampDaysText_of_within h, clampDaysText_of_within h', if_pos small,
      if_pos (more.trans_lt small)]
    exact clampDays_mono more

/-- Forty-two days, with a sign, zeros in front and white space around. -/
theorem clampDaysText_whole_of_padded :
    ∃ w : WholeText, w.Within " +0042\t" ∧ w.number < overflow ∧
      (clampDaysText (some " +0042\t") : ℤ) = max 1 (min 90 w.number) ∧ w.number = 42 := by
  let w : WholeText := ⟨.plus, ['0', '0', '4', '2'], by simp, List.all_eq_true.mp (by decide)⟩
  have within : w.Within " +0042\t" :=
    ⟨[' '], ['\t'], List.all_eq_true.mp (by decide), List.all_eq_true.mp (by decide), by decide⟩
  have number : w.number = (42 : ℕ) := rfl
  have small : w.number < overflow := by
    have words : 42 < UInt64.size := by decide
    rw [number]
    exact Nat.cast_lt.mpr (words.trans_le overflow_bounds.1)
  exact ⟨w, within, small, (clampDaysText_whole within).1.mpr small, number⟩

/-- **A number with too many digits counts as one day**, although it is more than ninety. -/
theorem clampDaysText_of_huge :
    ∃ w : WholeText, w.Within (Decimal.text (10 ^ 309)) ∧ w.number = (10 ^ 309 : ℕ) ∧
      clampDaysText (some (Decimal.text (10 ^ 309))) = 1 ∧ max 1 (min 90 w.number) = 90 := by
  have words : 90 ≤ UInt64.size := by decide
  have most : 90 ≤ 10 ^ 309 := words.trans (overflow_bounds.1.trans overflow_bounds.2.2)
  have large := overflow_bounds.2.2
  revert most large
  generalize 10 ^ 309 = n
  intro most large
  refine ⟨.ofNat n, WholeText.within_text n, WholeText.number_ofNat n, ?_, ?_⟩
  · rw [clampDaysText_of_within (WholeText.within_text n), WholeText.number_ofNat, if_neg, minDays]
    exact not_lt.mpr (Nat.cast_le.mpr large)
  · rw [WholeText.number_ofNat]
    omega

end CallMeter
