import CallMeter.Json.Numeral
import CallMeter.Proofs.Decimal.Doubles
import CallMeter.Proofs.Double.Error
import CallMeter.Proofs.Double.Whole

/-!
# Scaling by powers of ten

A double is scaled by one product or quotient with the double nearest to a power of ten, or by
two quotients. A quotient is always finite. A product may become infinite, but not for a decimal
that some double is the nearest one to, and neither does such a decimal come out as zero.

## Main results

* `isNearest_powerOfTen`: powers of ten are rounded to the nearest double
* `unsigned_of_scale?`: a scaled double is finite
* `value_of_scale?`: scaling by an exact power of ten rounds once
* `exists_scale?`: a decimal among the doubles can be scaled, and does not vanish
-/

namespace CallMeter.Json

open Double
open Float.Model (Format UnpackedFloat)
open Float.Model.UnpackedFloat

/-! ## Powers of ten -/

/-- The powers that are looked up are those that would be computed. -/
theorem powerOfTen_eq (k : ℕ) : powerOfTen k = .ofModel (Float.Model.ofScientific 1 k) := by
  by_cases small : k ≤ 22
  · have table : ∀ i : Fin 23, powerOfTen i = .ofModel (Float.Model.ofScientific 1 i) := by
      decide +kernel
    exact table ⟨k, by omega⟩
  · rw [powerOfTen, Float.ofScientific, dif_neg (by omega)]
    rfl

/-- **Powers of ten** are rounded to the nearest double. -/
theorem isNearest_powerOfTen {k : ℕ} (hk : k ≤ 308) : IsNearest (powerOfTen k) (10 ^ k) := by
  have rounded := isNearest_ofScientific one_pos (show k ≤ 2048 by omega)
  rwa [Nat.cast_one, one_mul, ← powerOfTen_eq] at rounded

theorem isFinite_powerOfTen {k : ℕ} (hk : k ≤ 308) : (powerOfTen k).isFinite = true := by
  have small : (10 : ℚ) ^ k < overflow := by
    have most : 10 ^ k ≤ 10 ^ 308 := pow_le_pow_right₀ (by norm_num) hk
    rw [← Nat.cast_ofNat, ← Nat.cast_pow, Nat.cast_lt]
    exact most.trans_lt overflow_bounds.2.1
  exact (isNearest_powerOfTen hk).isFinite_iff.mpr ((nearest_lt_iff (by positivity)).mpr small)

theorem unsigned_powerOfTen {k : ℕ} (hk : k ≤ 308) : Unsigned (powerOfTen k) :=
  (isNearest_powerOfTen hk).unsigned (isFinite_powerOfTen hk)

theorem value_powerOfTen {k : ℕ} (hk : k ≤ 308) : value (powerOfTen k) = nearest (10 ^ k) :=
  (isNearest_powerOfTen hk).value_eq (isFinite_powerOfTen hk)

theorem one_le_value_powerOfTen {k : ℕ} (hk : k ≤ 308) : 1 ≤ value (powerOfTen k) := by
  rw [value_powerOfTen hk]
  exact one_le_nearest (one_le_pow₀ (by norm_num))

/-- Powers of ten are near to what they stand for. -/
theorem near_powerOfTen {k : ℕ} (hk : k ≤ 308) : Near 1 0 (10 ^ k) (value (powerOfTen k)) := by
  rw [value_powerOfTen hk]
  exact .nearest_of_one_le (one_le_pow₀ (by norm_num))

/-! ## Quotients -/

variable {f g : Float}

theorem unsigned_div_powerOfTen (hf : Unsigned f) {k : ℕ} (hk : k ≤ 308) :
    Unsigned (f / powerOfTen k) ∧
      value (f / powerOfTen k) = nearest (value f / value (powerOfTen k)) :=
  unsigned_div hf (unsigned_powerOfTen hk) (one_le_value_powerOfTen hk)

/-- **A scaled double is finite.** -/
theorem unsigned_of_scale? (hf : Unsigned f) {e : ℤ} (h : scale? f e = some g) : Unsigned g := by
  rw [scale?] at h
  split_ifs at h with veryLow twice low zero high
  · obtain rfl := Option.some_inj.mp h
    exact (unsigned_div_powerOfTen (unsigned_div_powerOfTen hf le_rfl).1 le_rfl).1
  · obtain rfl := Option.some_inj.mp h
    exact (unsigned_div_powerOfTen (unsigned_div_powerOfTen hf le_rfl).1 (by omega)).1
  · obtain rfl := Option.some_inj.mp h
    exact (unsigned_div_powerOfTen hf (by omega)).1
  · obtain rfl := Option.some_inj.mp h
    exact hf
  · dsimp only at h
    split_ifs at h with finite
    obtain rfl := Option.some_inj.mp h
    exact (isNearest_mul hf (unsigned_powerOfTen (by omega))).unsigned finite

/-! ## Exact scaling -/

/-- The powers of ten that have few enough binary digits are exact. -/
theorem value_powerOfTen_of_le {k : ℕ} (hk : k ≤ 22) : value (powerOfTen k) = 10 ^ k := by
  have few : 5 ^ k < 2 ^ 53 :=
    (Nat.pow_le_pow_right (by decide) hk).trans_lt (by decide : 5 ^ 22 < 2 ^ 53)
  have grid := nearest_of_grid few (show (-1074 : ℤ) ≤ (k : ℤ) by omega)
  have split : ((5 ^ k : ℕ) : ℚ) * 2 ^ (k : ℤ) = 10 ^ k := by
    rw [zpow_natCast, Nat.cast_pow, ← mul_pow]
    norm_num
  rwa [split, ← value_powerOfTen (by omega)] at grid

/-- **With an exact power of ten**, scaling rounds once. -/
theorem value_of_scale? (hf : Unsigned f) {e : ℤ} (low : -22 ≤ e) (high : e ≤ 22)
    (h : scale? f e = some g) : value g = nearest (value f * 10 ^ e) := by
  rw [scale?, if_neg (by omega)] at h
  split_ifs at h with negative zero
  · obtain rfl := Option.some_inj.mp h
    obtain ⟨k, hk⟩ : ∃ k, (-e).toNat = k := ⟨_, rfl⟩
    obtain rfl : e = -k := by omega
    rw [hk, (unsigned_div_powerOfTen hf (by omega)).2, value_powerOfTen_of_le (by omega), zpow_neg,
      zpow_natCast, div_eq_mul_inv]
  · obtain rfl := Option.some_inj.mp h
    rw [beq_iff_value_eq hf unsigned_zero, value_of_zero parts_zero] at zero
    rw [zero, zero_mul, nearest_zero]
  · obtain ⟨k, hk⟩ : ∃ k, e.toNat = k := ⟨_, rfl⟩
    obtain rfl : e = k := by omega
    rw [hk] at h
    dsimp only at h
    split_ifs at h with finite
    obtain rfl := Option.some_inj.mp h
    rw [(isNearest_mul hf (unsigned_powerOfTen (by omega))).value_eq finite,
      value_powerOfTen_of_le (by omega), zpow_natCast]

/-! ## Decimals among the doubles -/

section Decimals

open Decimal (largest ten_zpow_pos)

variable {s : ℕ}

/-- Powers of ten beside the limits of doubles. -/
theorem limits : 100 ≤ 10 ^ 308 ∧ 10 ^ 308 * 11 < 2 ^ 1024 * 10 ∧
    largest ≤ 10 ^ 292 * 10 ^ 17 ∧ largest < 10 ^ 309 ∧ 2 ^ 1074 < 10 ^ 324 := by
  decide +kernel

theorem value_toFloat_ofNat (hs : s ≤ 10 ^ 17) : value (UInt64.ofNat s).toFloat = nearest s := by
  rw [value_toFloat, UInt64.toNat_ofNat_of_lt' (hs.trans_lt (by decide))]

/-- Far from the largest double, the roundings of a product do not matter. -/
theorem nearest_mul_lt (pos : 0 < s) {k : ℕ} (hk : k ≤ 308) (high : s * 10 ^ k ≤ 10 ^ 308) :
    nearest (nearest s * value (powerOfTen k)) < 2 ^ 1024 := by
  have one := one_le_nearest (Nat.one_le_cast.mpr pos)
  have power := one_le_value_powerOfTen hk
  have most : (s : ℚ) * 10 ^ k ≤ 10 ^ 308 := by
    have cast := (Nat.cast_le (α := ℚ)).mpr high
    rwa [Nat.cast_mul, Nat.cast_pow, Nat.cast_pow, Nat.cast_ofNat] at cast
  obtain ⟨hundred, eleven, -⟩ := limits
  have room : (10 : ℚ) ^ 308 * 11 < 2 ^ 1024 * 10 := by exact_mod_cast eleven
  have large : (100 : ℚ) ≤ 10 ^ 308 := by exact_mod_cast hundred
  have first := (Near.nearest_of_one_le (Nat.one_le_cast.mpr pos)).le
  have second := (near_powerOfTen hk).le
  rw [pow_one, add_zero] at first second
  have product : nearest s * value (powerOfTen k) ≤ 10 ^ 308 * (1 + roundoff) ^ 2 := by
    have grown := pow_nonneg (by linarith [roundoff_pos] : 0 ≤ 1 + roundoff) 2
    calc nearest s * value (powerOfTen k)
        ≤ s * (1 + roundoff) * (10 ^ k * (1 + roundoff)) :=
          mul_le_mul first second (by linarith) (by linarith)
      _ = s * 10 ^ k * (1 + roundoff) ^ 2 := by ring
      _ ≤ 10 ^ 308 * (1 + roundoff) ^ 2 := mul_le_mul_of_nonneg_right most grown
  have rounded : nearest (nearest s * value (powerOfTen k)) ≤
      nearest s * value (powerOfTen k) * (1 + 1 / 2 ^ 53) + underflow :=
    nearest_le (mul_nonneg (by linarith) (by linarith))
  have roundings : (1 + roundoff) ^ 2 * (1 + 1 / 2 ^ 53) ≤ 21 / 20 := by
    rw [roundoff]
    norm_num
  have small : underflow ≤ 1 := zpow_le_one_of_nonpos₀ one_le_two (by norm_num)
  generalize (10 : ℚ) ^ 308 = ten at *
  generalize (2 : ℚ) ^ 1024 = bound at *
  have scaled := mul_le_mul_of_nonneg_right product (by norm_num : (0 : ℚ) ≤ 1 + 1 / 2 ^ 53)
  have total := mul_le_mul_of_nonneg_left roundings (by linarith : 0 ≤ ten)
  linarith

/-- **A product is finite** if its exact result is not beyond the doubles. -/
theorem isFinite_mul_powerOfTen (pos : 0 < s) (hs : s ≤ 10 ^ 17) {k : ℕ} (hk : k ≤ 308)
    (high : s * 10 ^ k ≤ largest) :
    ((UInt64.ofNat s).toFloat * powerOfTen k).isFinite = true := by
  have product := isNearest_mul (unsigned_toFloat (UInt64.ofNat s)) (unsigned_powerOfTen hk)
  rw [value_toFloat_ofNat hs] at product
  obtain ⟨-, -, least, -⟩ := limits
  by_cases low : k ≤ 291
  · have most : s * 10 ^ k ≤ 10 ^ 308 :=
      calc s * 10 ^ k ≤ 10 ^ 17 * 10 ^ k := Nat.mul_le_mul_right _ hs
        _ = 10 ^ (17 + k) := (pow_add 10 17 k).symm
        _ ≤ 10 ^ 308 := pow_le_pow_right₀ (by decide) (by omega)
    exact product.isFinite_iff.mpr (nearest_mul_lt pos hk most)
  · -- close to the largest double, the largest significand of each scale is multiplied
    have table : ∀ i : Fin 17, ((UInt64.ofNat (largest / 10 ^ (292 + i.val))).toFloat *
        powerOfTen (292 + i)).isFinite = true := by decide +kernel
    have finite := table ⟨k - 292, by omega⟩
    rw [show 292 + (k - 292) = k by omega] at finite
    have fits : s ≤ largest / 10 ^ k := (Nat.le_div_iff_mul_le (Nat.pow_pos (by decide))).mpr high
    have few : largest / 10 ^ k ≤ 10 ^ 17 := by
      have power : 10 ^ 292 ≤ 10 ^ k := pow_le_pow_right₀ (by norm_num) (by omega)
      exact Nat.div_le_of_le_mul (least.trans (Nat.mul_le_mul_right _ power))
    have top := isNearest_mul (unsigned_toFloat (UInt64.ofNat (largest / 10 ^ k)))
      (unsigned_powerOfTen hk)
    rw [value_toFloat_ofNat few] at top
    refine product.isFinite_iff.mpr (lt_of_le_of_lt ?_ (top.isFinite_iff.mp finite))
    have first : nearest s ≤ nearest (largest / 10 ^ k : ℕ) :=
      nearest_mono (Nat.cast_nonneg s) (Nat.cast_le.mpr fits)
    have nonneg : 0 ≤ value (powerOfTen k) := value_nonneg (unsigned_powerOfTen hk)
    exact nearest_mono (mul_nonneg (nearest_nonneg (Nat.cast_nonneg s)) nonneg)
      (mul_le_mul_of_nonneg_right first nonneg)

/-- **Two quotients** of a decimal that is no smaller than the least double do not vanish. -/
theorem underflow_lt_quotients (pos : 0 < s) {k : ℕ} (some : 0 < k) (hk : k ≤ 308)
    (low : 2 * underflow * (10 ^ 308 * 10 ^ k) ≤ s) :
    underflow < nearest (nearest s / value (powerOfTen 308)) / value (powerOfTen k) := by
  have first := (near_powerOfTen (le_refl 308)).le
  have second := (near_powerOfTen hk).le
  have third := (Near.nearest_of_one_le (Nat.one_le_cast.mpr pos)).ge
  rw [pow_one, add_zero] at first second
  rw [pow_one, sub_zero] at third
  have power := one_le_value_powerOfTen (le_refl 308)
  have large : 2 ≤ value (powerOfTen k) := by
    have two : (2 : ℚ) ^ (1 : ℤ) ≤ 10 ^ k := by
      rw [zpow_one]
      exact (by norm_num : (2 : ℚ) ≤ 10).trans (le_self_pow₀ (by norm_num) some.ne')
    have rounded := zpow_le_nearest (by norm_num) two
    rwa [zpow_one, ← value_powerOfTen hk] at rounded
  have unit := underflow_pos
  have exact : (0 : ℚ) < 10 ^ 308 * 10 ^ k := by positivity
  generalize (10 : ℚ) ^ 308 = ten at *
  generalize value (powerOfTen 308) = p at *
  generalize value (powerOfTen k) = q at *
  have grown : (1 + roundoff) ^ 2 * (7 / 4) ≤ 2 * (1 - roundoff) := by
    rw [roundoff]
    norm_num
  -- the first quotient is above the error of the second one by more than its own
  have quotient : 7 / 4 * underflow * q ≤ nearest s / p := by
    rw [le_div_iff₀ (by linarith)]
    calc 7 / 4 * underflow * q * p
        = q * p * (7 / 4 * underflow) := by ring
      _ ≤ 10 ^ k * (1 + roundoff) * (ten * (1 + roundoff)) * (7 / 4 * underflow) :=
          mul_le_mul_of_nonneg_right (mul_le_mul second first (by linarith) (by linarith))
            (by linarith)
      _ = underflow * (ten * 10 ^ k) * ((1 + roundoff) ^ 2 * (7 / 4)) := by ring
      _ ≤ underflow * (ten * 10 ^ k) * (2 * (1 - roundoff)) :=
          mul_le_mul_of_nonneg_left grown (mul_nonneg unit.le exact.le)
      _ = 2 * underflow * (ten * 10 ^ k) * (1 - roundoff) := by ring
      _ ≤ s * (1 - roundoff) :=
          mul_le_mul_of_nonneg_right low (sub_nonneg.mpr roundoff_lt_one.le)
      _ ≤ nearest s := third
  have rounded : nearest s / p * (1 - 1 / 2 ^ 53) - underflow ≤ nearest (nearest s / p) :=
    le_nearest (div_nonneg (nearest_nonneg (Nat.cast_nonneg s)) (by linarith))
  rw [lt_div_iff₀ (by linarith)]
  have scaled := mul_le_mul_of_nonneg_right quotient (by norm_num : (0 : ℚ) ≤ 1 - 1 / 2 ^ 53)
  have more := mul_le_mul_of_nonneg_left large unit.le
  linarith

section Ranges

variable {e : ℤ} (pos : 0 < s) (hs : s ≤ 10 ^ 17)
include pos hs

/-- A decimal that is far below one takes two quotients. -/
theorem exists_scale?_of_lt (range : e < -308) (low : 2 ^ (-1074 : ℤ) ≤ (s : ℚ) * 10 ^ e) :
    ∃ g, scale? (UInt64.ofNat s).toFloat e = some g ∧ 0 < value g := by
  have unsigned := unsigned_toFloat (UInt64.ofNat s)
  have start := value_toFloat_ofNat hs
  have notTwice : -341 < e := by
    by_contra lower
    obtain ⟨-, -, -, -, tiny⟩ := limits
    have room : (2 : ℚ) ^ 1074 < 10 ^ 324 := by exact_mod_cast tiny
    have most : (s : ℚ) * 10 ^ e ≤ 10 ^ 17 * 10 ^ (-341 : ℤ) :=
      mul_le_mul (by exact_mod_cast hs) (zpow_le_zpow_right₀ (by norm_num) (by omega))
        (ten_zpow_pos e).le (by norm_num)
    have scaled : (10 : ℚ) ^ 17 * 10 ^ (-341 : ℤ) = (10 ^ 324)⁻¹ := by
      rw [← zpow_natCast, ← zpow_natCast, ← zpow_add₀ (by norm_num), ← zpow_neg]
      norm_num
    have least : (2 : ℚ) ^ (-1074 : ℤ) = (2 ^ 1074)⁻¹ := by
      rw [← zpow_natCast, ← zpow_neg]
      norm_num
    rw [scaled] at most
    rw [least] at low
    exact absurd (low.trans most) (not_le.mpr (inv_strictAnti₀ (by positivity) room))
  obtain ⟨k, hk⟩ : ∃ k, (-(e + 308)).toNat = k := ⟨_, rfl⟩
  obtain ⟨first, hfirst⟩ := unsigned_div_powerOfTen unsigned (le_refl 308)
  obtain ⟨-, second⟩ := unsigned_div_powerOfTen first (show k ≤ 308 by omega)
  rw [scale?, if_pos range, if_neg (by omega), hk]
  refine ⟨_, rfl, ?_⟩
  rw [second, hfirst, start]
  refine nearest_pos (underflow_lt_quotients pos (by omega) (by omega) ?_)
  have least : 2 * underflow = 2 ^ (-1074 : ℤ) := by
    rw [underflow, ← zpow_one_add₀ two_ne_zero]
    norm_num
  have exact : (10 : ℚ) ^ e * (10 ^ 308 * 10 ^ k) = 1 := by
    rw [← zpow_natCast, ← zpow_natCast, ← zpow_add₀ (by norm_num), ← zpow_add₀ (by norm_num),
      show e + ((308 : ℕ) + k) = 0 by omega, zpow_zero]
  calc 2 * underflow * (10 ^ 308 * 10 ^ k)
      ≤ s * 10 ^ e * (10 ^ 308 * 10 ^ k) :=
        mul_le_mul_of_nonneg_right (least.trans_le low) (by positivity)
    _ = s := by rw [mul_assoc, exact, mul_one]

/-- A decimal with a negative exponent takes one quotient. -/
theorem exists_scale?_of_neg (range : -308 ≤ e) (negative : e < 0) :
    ∃ g, scale? (UInt64.ofNat s).toFloat e = some g ∧ 0 < value g := by
  obtain ⟨k, hk⟩ : ∃ k, (-e).toNat = k := ⟨_, rfl⟩
  have fits : k ≤ 308 := by omega
  have power := one_le_value_powerOfTen fits
  have most := value_lt (unsigned_powerOfTen fits)
  rw [scale?, if_neg (by omega), if_pos negative, hk]
  refine ⟨_, rfl, ?_⟩
  rw [(unsigned_div_powerOfTen (unsigned_toFloat _) fits).2, value_toFloat_ofNat hs]
  refine (two_zpow_pos (-1024)).trans_le (zpow_le_nearest (by norm_num) ?_)
  rw [le_div_iff₀ (by linarith)]
  calc (2 : ℚ) ^ (-1024 : ℤ) * value (powerOfTen k)
      ≤ 2 ^ (-1024 : ℤ) * 2 ^ (1024 : ℤ) :=
        mul_le_mul_of_nonneg_left (most.le.trans_eq (zpow_natCast 2 1024).symm)
          (two_zpow_pos _).le
    _ = 2 ^ (0 : ℤ) := (zpow_add₀ two_ne_zero _ _).symm
    _ ≤ nearest s := one_le_nearest (Nat.one_le_cast.mpr pos)

/-- A decimal without a negative exponent takes one product. -/
theorem exists_scale?_of_nonneg {k : ℕ} (high : s * 10 ^ k ≤ largest) :
    ∃ g, scale? (UInt64.ofNat s).toFloat k = some g ∧ 0 < value g := by
  have unsigned := unsigned_toFloat (UInt64.ofNat s)
  have start := value_toFloat_ofNat hs
  have one := one_le_nearest (Nat.one_le_cast.mpr pos)
  have fits : k ≤ 308 := by
    by_contra large
    obtain ⟨-, -, -, beyond, -⟩ := limits
    have power : 10 ^ 309 ≤ s * 10 ^ k :=
      (pow_le_pow_right₀ (by norm_num) (by omega)).trans (Nat.le_mul_of_pos_left _ pos)
    exact absurd (power.trans high) (not_le.mpr beyond)
  have power := one_le_value_powerOfTen fits
  have finite := isFinite_mul_powerOfTen pos hs fits high
  have nonzero : ((UInt64.ofNat s).toFloat == 0.0) = false := by
    rw [Bool.eq_false_iff, Ne, beq_iff_value_eq unsigned unsigned_zero, start,
      value_of_zero parts_zero]
    linarith
  rw [scale?, if_neg (by omega), if_neg (by omega), nonzero, if_neg Bool.false_ne_true,
    if_pos (by omega), Int.toNat_natCast]
  dsimp only
  rw [if_pos finite]
  refine ⟨_, rfl, ?_⟩
  rw [(isNearest_mul unsigned (unsigned_powerOfTen fits)).value_eq finite, start]
  refine (two_zpow_pos 0).trans_le (zpow_le_nearest (by norm_num) ?_)
  rw [zpow_zero]
  exact one_le_mul_of_one_le_of_one_le one power

/-- **A decimal among the doubles can be scaled**, and does not vanish. -/
theorem exists_scale? (low : 2 ^ (-1074 : ℤ) ≤ (s : ℚ) * 10 ^ e)
    (high : (s : ℚ) * 10 ^ e ≤ largest) :
    ∃ g, scale? (UInt64.ofNat s).toFloat e = some g ∧ 0 < value g := by
  rcases lt_or_ge e (-308) with range | range
  · exact exists_scale?_of_lt pos hs range low
  rcases lt_or_ge e 0 with negative | nonneg
  · exact exists_scale?_of_neg pos hs range negative
  · obtain ⟨k, rfl⟩ := Int.eq_ofNat_of_zero_le nonneg
    rw [zpow_natCast] at high
    exact exists_scale?_of_nonneg pos hs (by exact_mod_cast high)

end Ranges

end Decimals

end CallMeter.Json
