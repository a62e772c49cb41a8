import CallMeter.Proofs.Double.Rounding

/-!
# Rounding errors

Each operation on doubles rounds its result: by a small part of it, or by less than the last
place of all where the result is close to zero. Several operations in a row round several times,
and what they come to is near to the exact result.

## Main definitions

* `roundoff`, `underflow`: the largest relative error, and the largest error close to zero
* `Near`: a number after a number of roundings

## Main results

* `Near.nearest`, `Near.nearest_of_normal`: one more rounding
* `Near.mul_right`, `Near.div_right`, `Near.add`: exact operations in between
* `Near.le_of_le`: what is left of an order after roundings
-/

namespace CallMeter.Double

/-- **The relative error** of a rounding, half of the fifty-third binary digit. -/
def roundoff : ℚ := 1 / 2 ^ 53

/-- **The error of a rounding close to zero**, half of the last place of all. -/
def underflow : ℚ := 2 ^ (-1075 : ℤ)

theorem roundoff_pos : 0 < roundoff := by
  rw [roundoff]
  positivity

theorem roundoff_lt_one : roundoff < 1 := by
  rw [roundoff]
  norm_num

theorem underflow_pos : 0 < underflow :=
  two_zpow_pos _

/-- What is above the error of a rounding close to zero is not rounded to zero. -/
theorem nearest_pos {z : ℚ} (h : underflow < z) : 0 < nearest z := by
  by_cases least : 2 ^ (-1074 : ℤ) ≤ z
  · exact (two_zpow_pos _).trans_le (zpow_le_nearest le_rfl least)
  · have log := log_lt (underflow_pos.trans h) (not_le.mp least)
    have place : lastPlace z = -1074 := max_eq_right (by omega)
    have off := (abs_le.mp (abs_nearest_sub_le z)).1
    have half : (2 : ℚ) ^ (-1074 : ℤ) / 2 = underflow := by
      rw [underflow, show (-1074 : ℤ) = -1075 + 1 from rfl, zpow_add_one₀ two_ne_zero,
        mul_div_cancel_right₀ _ two_ne_zero]
    rw [place, half] at off
    linarith

/-- **A number after roundings**: `w` is `z` after `k` roundings, up to an error of `δ`. -/
structure Near (k : ℕ) (δ z w : ℚ) : Prop where
  ge : z * (1 - roundoff) ^ k - δ ≤ w
  le : w ≤ z * (1 + roundoff) ^ k + δ

namespace Near

variable {k : ℕ} {δ ε z y w v : ℚ}

theorem refl (z : ℚ) : Near 0 0 z z where
  ge := by rw [pow_zero, mul_one, sub_zero]
  le := by rw [pow_zero, mul_one, add_zero]

theorem zero (hδ : 0 ≤ δ) : Near k δ 0 0 where
  ge := by linarith
  le := by linarith

theorem mono (h : Near k δ z w) (hδ : δ ≤ ε) : Near k ε z w where
  ge := by linarith [h.ge]
  le := by linarith [h.le]

/-- **One more rounding**, which may round close to zero. -/
theorem nearest (h : Near k δ z w) (hw : 0 ≤ w) (hδ : 0 ≤ δ) :
    Near (k + 1) (2 * δ + underflow) z (nearest w) where
  ge := by
    have rest : 0 ≤ 1 - roundoff := sub_nonneg.mpr roundoff_lt_one.le
    have scaled := mul_le_mul_of_nonneg_right h.ge rest
    have off := mul_nonneg hδ roundoff_pos.le
    have rounded : w * (1 - roundoff) - underflow ≤ Double.nearest w := le_nearest hw
    rw [pow_succ]
    linarith
  le := by
    have scaled := mul_le_mul_of_nonneg_right h.le (by linarith [roundoff_pos] : 0 ≤ 1 + roundoff)
    have off := mul_le_mul_of_nonneg_left roundoff_lt_one.le hδ
    have rounded : Double.nearest w ≤ w * (1 + roundoff) + underflow := nearest_le hw
    rw [pow_succ]
    linarith

/-- **One more rounding**, not close to zero. -/
theorem nearest_of_normal (h : Near k 0 z w) (normal : 2 ^ (-1022 : ℤ) ≤ w) :
    Near (k + 1) 0 z (Double.nearest w) := by
  have positive : 0 < w := (two_zpow_pos _).trans_le normal
  have digits : lastPlace w = Int.log 2 w - 52 := max_eq_left (by linarith [le_log normal])
  have off : |Double.nearest w - w| ≤ w * roundoff := by
    refine (abs_nearest_sub_le w).trans ?_
    have first := zpow_log_le positive
    rw [digits, zpow_sub₀ two_ne_zero, roundoff, div_div, mul_one_div]
    refine div_le_div₀ positive.le first (by norm_num) (le_of_eq ?_)
    norm_num
  obtain ⟨above, below⟩ := abs_le.mp off
  have rest : 0 ≤ 1 - roundoff := sub_nonneg.mpr roundoff_lt_one.le
  have lower := mul_le_mul_of_nonneg_right h.ge rest
  have upper := mul_le_mul_of_nonneg_right h.le (by linarith [roundoff_pos] : 0 ≤ 1 + roundoff)
  constructor
  · rw [pow_succ]
    linarith
  · rw [pow_succ]
    linarith

theorem nearest_of_one_le (h : 1 ≤ z) : Near 1 0 z (Double.nearest z) := by
  refine (refl z).nearest_of_normal (le_trans ?_ h)
  rw [← zpow_zero (2 : ℚ)]
  exact zpow_le_zpow_right₀ one_le_two (by norm_num)

theorem mul_right (h : Near k δ z w) {r : ℚ} (hr : 0 ≤ r) : Near k (δ * r) (z * r) (w * r) where
  ge := by linarith [mul_le_mul_of_nonneg_right h.ge hr]
  le := by linarith [mul_le_mul_of_nonneg_right h.le hr]

theorem div_right (h : Near k δ z w) {r : ℚ} (hr : 0 ≤ r) : Near k (δ / r) (z / r) (w / r) := by
  rw [div_eq_mul_inv, div_eq_mul_inv, div_eq_mul_inv]
  exact h.mul_right (inv_nonneg.mpr hr)

theorem add (h : Near k δ z w) (h' : Near k ε y v) : Near k (δ + ε) (z + y) (w + v) where
  ge := by linarith [h.ge, h'.ge]
  le := by linarith [h.le, h'.le]

/-- **Order up to rounding**: five roundings on either side change an order by a small part and
thrice the errors close to zero. -/
theorem le_of_le (h : Near 5 δ z w) (h' : Near 5 δ y v) (hz : z ≤ y) (hy : 0 ≤ y) (hδ : 0 ≤ δ) :
    w ≤ v * (1 + 1 / 2 ^ 49) + 3 * δ := by
  have ratio : (1 + roundoff) ^ 5 ≤ (1 - roundoff) ^ 5 * (1 + 1 / 2 ^ 49) := by
    rw [roundoff]
    norm_num
  have slack : (0 : ℚ) ≤ 1 + 1 / 2 ^ 49 := by norm_num
  have grown : (0 : ℚ) ≤ (1 + roundoff) ^ 5 := pow_nonneg (by linarith [roundoff_pos]) 5
  calc w ≤ z * (1 + roundoff) ^ 5 + δ := h.le
    _ ≤ y * (1 + roundoff) ^ 5 + δ := by linarith [mul_le_mul_of_nonneg_right hz grown]
    _ ≤ y * ((1 - roundoff) ^ 5 * (1 + 1 / 2 ^ 49)) + δ := by
        linarith [mul_le_mul_of_nonneg_left ratio hy]
    _ = y * (1 - roundoff) ^ 5 * (1 + 1 / 2 ^ 49) + δ := by rw [mul_assoc]
    _ ≤ (v + δ) * (1 + 1 / 2 ^ 49) + δ := by
        linarith [mul_le_mul_of_nonneg_right (sub_le_iff_le_add.mp h'.ge) slack]
    _ ≤ v * (1 + 1 / 2 ^ 49) + 3 * δ := by linarith

end Near

end CallMeter.Double
