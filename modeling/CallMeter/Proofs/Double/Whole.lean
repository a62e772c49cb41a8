import CallMeter.Decimal.Reader
import CallMeter.Proofs.Double.Order

/-!
# Whole numbers as doubles

A whole number is rounded to the double nearest to it, however many digits it has, and from half a
last place above the largest double on it becomes infinite. A double goes back to a word by its
whole part, or as the largest word where that is too large.

## Main definitions

* `overflow`: the least number that is rounded to infinity

## Main results

* `isNearest_ofDecimal`: whole numbers are rounded to the nearest double
* `toNat_toUInt64`: the word of a double is its whole part or the largest word
* `floor_nearest_eq_iff`: which whole numbers a double can hold
* `nearest_lt_iff`: which numbers are rounded to a finite double
-/

namespace CallMeter.Double

open Float.Model (Format UnpackedFloat)
open Float.Model.UnpackedFloat

/-- **A decimal that is a whole number** is rounded to the nearest double. -/
theorem isNearest_ofScientific {m k : ℕ} (pos : 0 < m) (hk : k ≤ 2048) :
    IsNearest (.ofModel (Float.Model.ofScientific m k)) (m * 10 ^ k) := by
  have model : UnpackedFloat.ofScientific Format.binary64 m k =
      roundWithAccuracy Format.binary64 .positive ((m <<< 53) * 10 ^ k) (-53) .exact := by
    have width : (2 : ℤ) ^ Format.binary64.exponentBits = 2048 := rfl
    rw [UnpackedFloat.ofScientific, dif_neg pos.ne', width, if_neg (by omega),
      if_neg (by omega), if_pos (by omega)]
    rfl
  have number : (((m <<< 53) * 10 ^ k : ℕ) : ℚ) * 2 ^ (-53 : ℤ) = m * 10 ^ k := by
    rw [Nat.shiftLeft_eq]
    push_cast
    norm_num
    ring
  have positive : (0 : ℚ) < m * 10 ^ k := by positivity
  show IsNearest (.ofModel (.pack (UnpackedFloat.ofScientific Format.binary64 m k))) _
  rw [model]
  refine isNearest_pack (rounds_roundWithAccuracy positive ?_ ?_)
  · rw [← number]
    exact mul_div_cancel_right₀ _ (two_zpow_pos _).ne'
  · have one : (2 : ℚ) ^ (0 : ℤ) ≤ m * 10 ^ k := by
      rw [zpow_zero]
      exact_mod_cast Nat.mul_pos pos (Nat.pow_pos (by decide))
    have log := le_log one
    rw [lastPlace]
    omega

theorem parts_one : parts 1.0 = .finite .positive (2 ^ 52) (-52) (by decide) := rfl

theorem unsigned_one : Unsigned 1.0 := .finite parts_one

theorem value_one : value 1.0 = 1 := by
  rw [value_of_finite parts_one]
  norm_num

/-- **A whole number** is rounded to the nearest double. -/
theorem isNearest_ofDecimal (m : ℕ) : IsNearest (Decimal.ofDecimal m 0) m := by
  by_cases small : m < 2 ^ 53
  · have word : m.toUInt64.toNat = m := UInt64.toNat_ofNat_of_lt' (small.trans (by decide))
    have one : getElem Float.exactlyRepresentablePowersOfTen 0 (by decide) = 1.0 := by
      decide
    have product : Decimal.ofDecimal m 0 = m.toUInt64.toFloat * 1.0 := by
      rw [Decimal.ofDecimal, Float.ofScientific, dif_pos ⟨small, by decide⟩, ← one]
      rfl
    have exact := isNearest_mul (unsigned_toFloat m.toUInt64) unsigned_one
    rwa [← product, value_one, mul_one, value_toFloat_of_lt (by rwa [word]), word] at exact
  · have model : Decimal.ofDecimal m 0 = .ofModel (Float.Model.ofScientific m 0) := by
      rw [Decimal.ofDecimal, Float.ofScientific, dif_neg (fun h => small h.1)]
      rfl
    have rounded := isNearest_ofScientific (m := m) (by omega) (Nat.zero_le 2048)
    rwa [pow_zero, mul_one, Nat.cast_zero, ← model] at rounded

variable {x y : Float} {z : ℚ}

theorem lt_iff_value_lt (hx : Unsigned x) (hy : Unsigned y) : x < y ↔ value x < value y := by
  rw [lt_iff_compare, compare_eq hx hy, Option.some_inj, compare_lt_iff_lt]

/-- A double with a sign in front is below one. -/
theorem neg_lt_one (h : Unsigned x) : -x < 1.0 := by
  rw [lt_iff_compare, parts_neg, parts_one]
  rcases h with h | h <;> rw [h] <;> rfl

/-- Nor is it above zero. -/
theorem not_zero_lt_neg (h : Unsigned x) : ¬ 0.0 < -x := by
  rw [lt_iff_compare, parts_zero, parts_neg]
  rcases h with h | h <;> rw [h] <;> simp [UnpackedFloat.neg, UnpackedFloat.compare]

/-! ## Whole parts -/

/-- The whole part of a positive number from its mantissa and exponent. -/
theorem roundToInt_eq (m : ℕ) (e : ℤ) : roundToInt .positive m e = ⌊(m : ℚ) * 2 ^ e⌋ := by
  rcases Int.le_total 0 e with up | down
  · obtain ⟨k, rfl⟩ := Int.eq_ofNat_of_zero_le up
    have first : decreaseExponent m k 0 = (m <<< k, 0) := by
      simp [decreaseExponent]
    have whole : (m : ℚ) * 2 ^ (k : ℤ) = ((m <<< k : ℕ) : ℤ) := by
      rw [mul_zpow_eq_shiftLeft (add_zero (k : ℤ)).symm, zpow_zero, mul_one]
      rfl
    rw [roundToInt, first]
    dsimp only
    rw [shiftToExponent_of_le le_rfl, whole, Int.floor_intCast]
    rfl
  · obtain ⟨k, hk⟩ := Int.eq_ofNat_of_zero_le (neg_nonneg.mpr down)
    have first : decreaseExponent m e 0 = (m, e) := by
      have none : (e - 0).toNat = 0 := by omega
      rw [decreaseExponent, none]
      simp
    have exact : Shows (.ofMantissaAndAccuracy m .exact) (m : ℚ) := rfl
    have shown := exact.shiftRight (0 - e).toNat
    have scaled : (m : ℚ) / 2 ^ (0 - e).toNat = m * 2 ^ e := by
      rw [div_eq_mul_inv, ← zpow_natCast, ← zpow_neg]
      congr 2
      omega
    rw [scaled] at shown
    rw [roundToInt, first]
    dsimp only
    rw [shiftToExponent_of_le down, shown.floor_eq]
    rfl

/-- **The word of a double** without a sign is its whole part, or the largest word. -/
theorem toNat_toUInt64 (h : Unsigned x) :
    x.toUInt64.toNat = min ⌊value x⌋₊ (UInt64.size - 1) := by
  have clamp (n : ℕ) : (UInt64.ofNatClamp n).toNat = min n (UInt64.size - 1) := by
    unfold UInt64.ofNatClamp
    split_ifs with few
    · rw [UInt64.toNat_ofNatLT]
      omega
    · rw [UInt64.toNat_ofNatLT]
      omega
  show (UInt64.ofNatClamp ((parts x).toInt 0 (UInt64.size - 1)).toNat).toNat = _
  rw [clamp]
  rcases h with h | @⟨m, e, pos, h⟩
  · rw [h, value_of_zero h, Nat.floor_zero]
    rfl
  · rw [h, value_of_finite h]
    show min (roundToInt .positive m e).toNat _ = _
    rw [roundToInt_eq, Int.floor_toNat]

/-! ## Whole numbers that come back -/

/-- **A double holds a whole number** if it has at most fifty-three digits between its first and
its last binary one. -/
theorem floor_nearest_eq_iff {n : ℕ} :
    ⌊nearest n⌋₊ = n ↔ ∃ m k : ℕ, m < 2 ^ 53 ∧ n = m * 2 ^ k := by
  constructor
  · intro same
    rcases Nat.lt_or_ge n (2 ^ 53) with few | many
    · exact ⟨n, 0, few, (Nat.mul_one n).symm⟩
    have power : (2 : ℚ) ^ (53 : ℤ) ≤ n := by exact_mod_cast many
    have positive : (0 : ℚ) < n := (two_zpow_pos 53).trans_le power
    have log := le_log power
    obtain ⟨k, hk⟩ : ∃ k : ℕ, lastPlace n = k := by
      refine Int.eq_ofNat_of_zero_le ?_
      rw [lastPlace]
      omega
    have upper := (scaled_bounds positive).1
    have scaled : (0 : ℚ) ≤ n / 2 ^ lastPlace n := div_nonneg positive.le (two_zpow_pos _).le
    have nonneg : 0 ≤ halfEven (n / 2 ^ lastPlace n) := le_halfEven (by rwa [Int.cast_zero])
    obtain ⟨m, hm⟩ := Int.eq_ofNat_of_zero_le nonneg
    have most : m ≤ 2 ^ 53 := by
      have digits := halfEven_le (x := n / 2 ^ lastPlace n) (n := 2 ^ 53)
        (by push_cast; exact upper.le)
      rw [hm] at digits
      exact_mod_cast digits
    have whole : nearest n = (m * 2 ^ k : ℕ) := by
      rw [nearest, hm, hk, zpow_natCast]
      push_cast
      rfl
    rw [whole, Nat.floor_natCast] at same
    -- a carry into a new first digit leaves nothing but zeros behind it
    rcases most.lt_or_eq with short | carry
    · exact ⟨m, k, short, same.symm⟩
    · refine ⟨1, 53 + k, by norm_num, ?_⟩
      rw [one_mul, pow_add, ← carry, same]
  · rintro ⟨m, k, few, rfl⟩
    have grid := nearest_of_grid (e := k) few (by omega)
    rw [zpow_natCast] at grid
    have cast : ((m * 2 ^ k : ℕ) : ℚ) = m * 2 ^ k := by push_cast; rfl
    rw [cast, grid, ← cast, Nat.floor_natCast]

/-- The largest word is rounded up to a number that has no word, and comes back from there. -/
theorem min_floor_nearest_largest :
    min ⌊nearest (UInt64.size - 1 : ℕ)⌋₊ (UInt64.size - 1) = UInt64.size - 1 := by
  have word : (UInt64.ofNat (UInt64.size - 1)).toNat = UInt64.size - 1 := by decide
  have back : (UInt64.ofNat (UInt64.size - 1)).toFloat.toUInt64.toNat = UInt64.size - 1 := by
    decide
  rw [toNat_toUInt64 (unsigned_toFloat _), value_toFloat, word] at back
  exact back

/-- The words that come back from their doubles. -/
theorem min_floor_nearest_eq_iff {n : ℕ} (h : n < UInt64.size) :
    min ⌊nearest n⌋₊ (UInt64.size - 1) = n ↔
      (∃ m k : ℕ, m < 2 ^ 53 ∧ n = m * 2 ^ k) ∨ n = UInt64.size - 1 := by
  rw [← floor_nearest_eq_iff]
  rcases (Nat.le_sub_one_of_lt h).lt_or_eq with less | last
  · rw [or_iff_left less.ne]
    omega
  · rw [last]
    exact iff_of_true min_floor_nearest_largest (.inr rfl)

/-! ## The largest double -/

/-- From here on numbers are rounded to infinity: the largest double and half of its last place. -/
@[irreducible] def overflow : ℕ := (2 ^ 54 - 1) * 2 ^ 970

theorem overflow_eq : (overflow : ℚ) = (2 ^ 53 - 1 / 2) * 2 ^ (971 : ℤ) := by
  have digits : ((2 ^ 54 - 1 : ℕ) : ℚ) = (2 ^ 53 - 1 / 2) * 2 ^ (1 : ℤ) := by norm_num
  have unit : ((2 ^ 970 : ℕ) : ℚ) = 2 ^ (970 : ℤ) := by
    rw [Nat.cast_pow, ← zpow_natCast]
    rfl
  unfold overflow
  rw [Nat.cast_mul, digits, unit, mul_assoc, ← zpow_add₀ two_ne_zero]
  rfl

/-- The last place of numbers of the size of the largest double. -/
theorem lastPlace_of_large (low : 2 ^ (1023 : ℤ) ≤ z) (high : z < 2 ^ (1024 : ℤ)) :
    lastPlace z = 971 := by
  have atLeast := le_log low
  have atMost := log_lt ((two_zpow_pos _).trans_le low) high
  rw [lastPlace]
  omega

/-- The overflow is between two powers of ten, and beyond all words. -/
theorem overflow_bounds : UInt64.size ≤ overflow ∧ 10 ^ 308 < overflow ∧ overflow ≤ 10 ^ 309 := by
  decide +kernel

/-- **Numbers below the overflow**, and only these, are rounded to a finite double. -/
theorem nearest_lt_iff (hz : 0 ≤ z) : nearest z < 2 ^ 1024 ↔ z < overflow := by
  have unit := two_zpow_pos 971
  have top : (2 : ℚ) ^ (1024 : ℤ) = 2 ^ 53 * 2 ^ (971 : ℤ) := by
    rw [← zpow_natCast, ← zpow_add₀ two_ne_zero]
    rfl
  have half : (2 : ℚ) ^ (1023 : ℤ) = 2 ^ 52 * 2 ^ (971 : ℤ) := by
    rw [← zpow_natCast, ← zpow_add₀ two_ne_zero]
    rfl
  have inside : (overflow : ℚ) < 2 ^ (1024 : ℤ) := by
    rw [overflow_eq, top]
    exact mul_lt_mul_of_pos_right (by norm_num) unit
  rw [← zpow_natCast, Nat.cast_ofNat]
  constructor
  · contrapose!
    intro large
    have place : lastPlace overflow = 971 := by
      refine lastPlace_of_large ?_ inside
      rw [overflow_eq, half]
      exact mul_le_mul_of_nonneg_right (by norm_num) unit.le
    have carried : halfEven (2 ^ 53 - 1 / 2) = 2 ^ 53 := by
      refine halfEven_eq ?_ ?_ ?_ <;> norm_num
    have edge : nearest overflow = 2 ^ (1024 : ℤ) := by
      rw [nearest, place, overflow_eq, mul_div_cancel_right₀ _ unit.ne', carried, top, Int.cast_pow]
      rfl
    exact edge.symm.trans_le (nearest_mono (Nat.cast_nonneg overflow) large)
  · intro small
    rcases lt_or_ge z (2 ^ (1023 : ℤ)) with below | above
    · refine (nearest_le_zpow (by norm_num) hz below.le).trans_lt ?_
      exact zpow_lt_zpow_right₀ one_lt_two (by norm_num)
    · have place := lastPlace_of_large above (small.trans inside)
      have scaled : z / 2 ^ (971 : ℤ) < 2 ^ 53 - 1 / 2 :=
        (div_lt_iff₀ unit).mpr (small.trans_eq overflow_eq)
      have off := (abs_le.mp (abs_halfEven_sub_le (z / 2 ^ (971 : ℤ)))).2
      rw [nearest, place, top]
      exact mul_lt_mul_of_pos_right (by linarith) unit

end CallMeter.Double
