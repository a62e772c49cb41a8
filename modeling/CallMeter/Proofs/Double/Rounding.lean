import Mathlib.Algebra.Order.Round
import Mathlib.Data.Int.Log
import Mathlib.Data.Rat.Floor
import Mathlib.Tactic.Linarith
import Mathlib.Tactic.Positivity
import Mathlib.Tactic.Ring

/-!
# Rounding to doubles

A double keeps fifty-three binary digits of a number, fewer close to zero. The last of them is
the last place of the number, and the double nearest to the number is a whole multiple of it.
Numbers too large for a double are not treated apart here.

## Main definitions

* `halfEven`: the nearest whole number
* `lastPlace`: the exponent of the last place of a number
* `nearest`: the double nearest to a number

## Main results

* `nearest_mono`: rounding keeps the order
* `nearest_of_grid`: a number with digits few enough stays as it is
* `abs_nearest_sub_le`: rounding is off by half of the last place at most
* `nearest_le`, `le_nearest`: the same, relative to the number
-/

namespace CallMeter.Double

/-! ## Whole numbers -/

/-- **The nearest whole number**; a half goes to the even neighbour. -/
def halfEven (x : ℚ) : ℤ :=
  if Int.fract x < 1 / 2 then ⌊x⌋
  else if 1 / 2 < Int.fract x then ⌊x⌋ + 1
  else ⌊x⌋ + ⌊x⌋ % 2

theorem halfEven_bounds (x : ℚ) : ⌊x⌋ ≤ halfEven x ∧ halfEven x ≤ ⌊x⌋ + 1 := by
  rw [halfEven]
  split_ifs <;> omega

theorem halfEven_intCast (n : ℤ) : halfEven n = n := by
  rw [halfEven, if_pos (by rw [Int.fract_intCast]; norm_num), Int.floor_intCast]

theorem abs_halfEven_sub_le (x : ℚ) : |(halfEven x : ℚ) - x| ≤ 1 / 2 := by
  have lower := Int.fract_nonneg x
  have upper := Int.fract_lt_one x
  have parts := Int.floor_add_fract x
  rw [abs_le, halfEven]
  split_ifs with low high
  · constructor <;> linarith
  · push_cast
    constructor <;> linarith
  · have half : Int.fract x = 1 / 2 := le_antisymm (not_lt.mp high) (not_lt.mp low)
    rcases Int.emod_two_eq_zero_or_one ⌊x⌋ with even | odd
    · rw [even]
      push_cast
      constructor <;> linarith
    · rw [odd]
      push_cast
      constructor <;> linarith

theorem halfEven_mono {x y : ℚ} (h : x ≤ y) : halfEven x ≤ halfEven y := by
  rcases (Int.floor_mono h).lt_or_eq with apart | same
  · exact (halfEven_bounds x).2.trans ((Int.add_one_le_of_lt apart).trans (halfEven_bounds y).1)
  · have further : Int.fract x ≤ Int.fract y := by
      rw [Int.fract, Int.fract, same]
      linarith
    rw [halfEven, halfEven, same]
    split_ifs <;> first | omega | linarith

/-- What is no farther than a half from a whole number, or than less than a half if that is odd,
is rounded to it. -/
theorem halfEven_eq {y : ℚ} {n : ℤ} (low : n - 1 / 2 ≤ y) (high : y ≤ n + 1 / 2)
    (strict : n % 2 = 1 → n - 1 / 2 < y ∧ y < n + 1 / 2) : halfEven y = n := by
  have even (edge : y = n - 1 / 2 ∨ y = n + 1 / 2) : n % 2 = 0 := by
    by_contra odd
    obtain ⟨below, above⟩ := strict (by omega)
    rcases edge with rfl | rfl
    · exact lt_irrefl _ below
    · exact lt_irrefl _ above
  rcases lt_or_ge y n with below | above
  · have floor : ⌊y⌋ = n - 1 := by
      rw [Int.floor_eq_iff]
      push_cast
      constructor <;> linarith
    have fract : Int.fract y = y - n + 1 := by
      rw [Int.fract, floor]
      push_cast
      ring
    rw [halfEven, floor, fract, if_neg (by linarith)]
    split_ifs with inside
    · omega
    · have := even (.inl (by linarith))
      omega
  · have floor : ⌊y⌋ = n := by
      rw [Int.floor_eq_iff]
      constructor <;> linarith
    have fract : Int.fract y = y - n := by
      rw [Int.fract, floor]
    rw [halfEven, floor, fract, if_neg (by linarith : ¬ 1 / 2 < y - n)]
    split_ifs with inside
    · rfl
    · have := even (.inr (by linarith))
      omega

theorem halfEven_le {x : ℚ} {n : ℤ} (h : x ≤ n) : halfEven x ≤ n :=
  (halfEven_mono h).trans_eq (halfEven_intCast n)

theorem le_halfEven {x : ℚ} {n : ℤ} (h : n ≤ x) : n ≤ halfEven x :=
  (halfEven_intCast n).symm.trans_le (halfEven_mono h)

/-! ## Binary places -/

/-- **The last place** of a number: the exponent of the last binary digit that a double keeps. -/
def lastPlace (z : ℚ) : ℤ :=
  max (Int.log 2 z - 52) (-1074)

/-- **The double nearest to a number**, as if there were doubles of any size. -/
def nearest (z : ℚ) : ℚ :=
  halfEven (z / 2 ^ lastPlace z) * 2 ^ lastPlace z

variable {z z' : ℚ}

theorem zpow_log_le (h : 0 < z) : (2 : ℚ) ^ Int.log 2 z ≤ z := by
  exact_mod_cast Int.zpow_log_le_self (b := 2) (by norm_num) h

theorem lt_zpow_log (z : ℚ) : z < (2 : ℚ) ^ (Int.log 2 z + 1) := by
  exact_mod_cast Int.lt_zpow_succ_log_self (b := 2) (by norm_num) z

theorem two_zpow_pos (e : ℤ) : (0 : ℚ) < 2 ^ e :=
  zpow_pos two_pos e

theorem le_log {k : ℤ} (h : (2 : ℚ) ^ k ≤ z) : k ≤ Int.log 2 z := by
  have pos : 0 < z := (two_zpow_pos k).trans_le h
  exact (Int.zpow_le_iff_le_log (b := 2) (by norm_num) pos).mp (by rwa [Nat.cast_ofNat])

theorem log_lt {k : ℤ} (hz : 0 < z) (h : z < (2 : ℚ) ^ k) : Int.log 2 z < k :=
  (Int.lt_zpow_iff_log_lt (b := 2) (by norm_num) hz).mp (by rwa [Nat.cast_ofNat])

theorem lastPlace_mono (h : 0 < z) (hz : z ≤ z') : lastPlace z ≤ lastPlace z' := by
  have log := Int.log_mono_right (b := 2) h hz
  rw [lastPlace, lastPlace]
  omega

/-! ## The nearest double -/

theorem abs_nearest_sub_le (z : ℚ) : |nearest z - z| ≤ 2 ^ lastPlace z / 2 := by
  have unit := two_zpow_pos (lastPlace z)
  have whole := abs_halfEven_sub_le (z / 2 ^ lastPlace z)
  have scaled : nearest z - z =
      (halfEven (z / 2 ^ lastPlace z) - z / 2 ^ lastPlace z) * 2 ^ lastPlace z := by
    rw [sub_mul, div_mul_cancel₀ z unit.ne', nearest]
  rw [scaled, abs_mul, abs_of_pos unit]
  linarith [mul_le_mul_of_nonneg_right whole unit.le]

/-- A whole multiple of the last place stays as it is. -/
theorem nearest_of_multiple {n : ℤ} (h : z = n * 2 ^ lastPlace z) : nearest z = z := by
  have whole : z / 2 ^ lastPlace z = n := by
    rw [div_eq_iff (two_zpow_pos _).ne']
    exact h
  rw [nearest, whole, halfEven_intCast, ← h]

/-- **A number with digits few enough** stays as it is. -/
theorem nearest_of_grid {m : ℕ} {e : ℤ} (hm : m < 2 ^ 53) (he : -1074 ≤ e) :
    nearest (m * 2 ^ e) = m * 2 ^ e := by
  rcases Nat.eq_zero_or_pos m with rfl | pos
  · simp [nearest, halfEven]
  · have positive : (0 : ℚ) < m * 2 ^ e := mul_pos (Nat.cast_pos.mpr pos) (two_zpow_pos e)
    have small : (m : ℚ) * 2 ^ e < 2 ^ (53 + e) := by
      rw [zpow_add₀ two_ne_zero]
      have bound : (m : ℚ) < 2 ^ (53 : ℤ) := by exact_mod_cast hm
      exact mul_lt_mul_of_pos_right bound (two_zpow_pos e)
    have log := log_lt positive small
    have place : lastPlace (m * 2 ^ e) ≤ e := by
      rw [lastPlace]
      omega
    obtain ⟨k, hk⟩ := Int.le.dest place
    refine nearest_of_multiple (n := m * 2 ^ k) ?_
    conv_lhs => rw [← hk, zpow_add₀ two_ne_zero, zpow_natCast]
    push_cast
    ring

/-- A whole number with digits few enough stays as it is. -/
theorem nearest_natCast_of_lt {n : ℕ} (h : n < 2 ^ 53) : nearest n = n := by
  have grid := nearest_of_grid (e := 0) h (by norm_num)
  rwa [zpow_zero, mul_one] at grid

theorem nearest_zero : nearest 0 = 0 := by
  simp [nearest, halfEven]

theorem nearest_nonneg (h : 0 ≤ z) : 0 ≤ nearest z := by
  have scaled : (0 : ℚ) ≤ z / 2 ^ lastPlace z := div_nonneg h (two_zpow_pos _).le
  have whole : 0 ≤ halfEven (z / 2 ^ lastPlace z) := le_halfEven (by rwa [Int.cast_zero])
  exact mul_nonneg (Int.cast_nonneg whole) (two_zpow_pos _).le

/-- A number not above a multiple of its last place is not rounded above it. -/
theorem nearest_le_of_le {n : ℤ} (h : z ≤ n * 2 ^ lastPlace z) :
    nearest z ≤ n * 2 ^ lastPlace z := by
  have unit := two_zpow_pos (lastPlace z)
  have whole := halfEven_le ((div_le_iff₀ unit).mpr h)
  exact mul_le_mul_of_nonneg_right (Int.cast_le.mpr whole) unit.le

/-- Nor is one not below a multiple of its last place rounded below it. -/
theorem le_nearest_of_le {n : ℤ} (h : n * 2 ^ lastPlace z ≤ z) :
    n * 2 ^ lastPlace z ≤ nearest z := by
  have unit := two_zpow_pos (lastPlace z)
  have whole := le_halfEven ((le_div_iff₀ unit).mpr h)
  exact mul_le_mul_of_nonneg_right (Int.cast_le.mpr whole) unit.le

/-- A power of two from the last place on is a multiple of it. -/
theorem exists_multiple {e p : ℤ} (h : e ≤ p) : ∃ n : ℤ, (2 : ℚ) ^ p = n * 2 ^ e := by
  obtain ⟨k, hk⟩ := Int.le.dest h
  refine ⟨2 ^ k, ?_⟩
  rw [← hk, zpow_add₀ two_ne_zero, zpow_natCast]
  push_cast
  ring

/-- **Rounding keeps the order.** -/
theorem nearest_mono (h : 0 ≤ z) (hz : z ≤ z') : nearest z ≤ nearest z' := by
  rcases h.eq_or_lt with rfl | pos
  · rw [nearest_zero]
    exact nearest_nonneg hz
  rcases (lastPlace_mono pos hz).eq_or_lt with same | apart
  · have unit := two_zpow_pos (lastPlace z')
    rw [nearest, nearest, same]
    have scaled : z / 2 ^ lastPlace z' ≤ z' / 2 ^ lastPlace z' :=
      div_le_div_of_nonneg_right hz unit.le
    exact mul_le_mul_of_nonneg_right (Int.cast_le.mpr (halfEven_mono scaled)) unit.le
  · -- a power of two lies between the numbers, and both roundings stop at it
    have log : Int.log 2 z < Int.log 2 z' := by
      rw [lastPlace, lastPlace] at apart
      omega
    have below : z ≤ 2 ^ Int.log 2 z' := by
      refine (lt_zpow_log z).le.trans ?_
      exact zpow_le_zpow_right₀ one_le_two log
    have places : lastPlace z ≤ Int.log 2 z' ∧ lastPlace z' ≤ Int.log 2 z' := by
      rw [lastPlace, lastPlace] at *
      omega
    obtain ⟨n, hn⟩ := exists_multiple places.1
    obtain ⟨n', hn'⟩ := exists_multiple places.2
    calc nearest z ≤ 2 ^ Int.log 2 z' := hn ▸ nearest_le_of_le (hn ▸ below)
      _ ≤ nearest z' := hn' ▸ le_nearest_of_le (hn' ▸ zpow_log_le (pos.trans_le hz))

/-- A power of two that a double reaches bounds what is rounded from there on. -/
theorem zpow_le_nearest {k : ℤ} (hk : -1074 ≤ k) (h : 2 ^ k ≤ z) : 2 ^ k ≤ nearest z := by
  have grid := nearest_of_grid (m := 1) (by norm_num) hk
  rw [Nat.cast_one, one_mul] at grid
  exact grid.symm.trans_le (nearest_mono (two_zpow_pos k).le h)

theorem one_le_nearest (h : 1 ≤ z) : 1 ≤ nearest z := by
  rw [← zpow_zero (2 : ℚ)] at h ⊢
  exact zpow_le_nearest (by norm_num) h

/-- A power of two that a double reaches bounds what is rounded up to there. -/
theorem nearest_le_zpow {k : ℤ} (hk : -1074 ≤ k) (hz : 0 ≤ z) (h : z ≤ 2 ^ k) :
    nearest z ≤ 2 ^ k := by
  have grid := nearest_of_grid (m := 1) (by norm_num) hk
  rw [Nat.cast_one, one_mul] at grid
  exact (nearest_mono hz h).trans_eq grid

/-! ## How far off -/

/-- Half of the last place is small beside the number, unless it is the last place of all. -/
theorem half_lastPlace_le (h : 0 < z) :
    (2 : ℚ) ^ lastPlace z / 2 ≤ z / 2 ^ 53 + 2 ^ (-1075 : ℤ) := by
  have small : (0 : ℚ) < 2 ^ (-1075 : ℤ) := two_zpow_pos _
  rcases le_total (Int.log 2 z - 52) (-1074) with low | high
  · have place : (2 : ℚ) ^ lastPlace z / 2 = 2 ^ (-1075 : ℤ) := by
      rw [lastPlace, max_eq_right low, div_eq_mul_inv, ← zpow_neg_one, ← zpow_add₀ two_ne_zero]
      norm_num
    rw [place]
    linarith [div_nonneg h.le (by norm_num : (0 : ℚ) ≤ 2 ^ 53)]
  · have place : (2 : ℚ) ^ lastPlace z / 2 = 2 ^ Int.log 2 z / 2 ^ 53 := by
      rw [lastPlace, max_eq_left high, zpow_sub₀ two_ne_zero, div_div]
      norm_num
    rw [place]
    have fits := div_le_div_of_nonneg_right (zpow_log_le h) (by norm_num : (0 : ℚ) ≤ 2 ^ 53)
    linarith

theorem nearest_le (h : 0 ≤ z) : nearest z ≤ z * (1 + 1 / 2 ^ 53) + 2 ^ (-1075 : ℤ) := by
  rcases h.eq_or_lt with rfl | pos
  · rw [nearest_zero]
    linarith [two_zpow_pos (-1075)]
  · have off := (abs_le.mp (abs_nearest_sub_le z)).2
    have half := half_lastPlace_le pos
    linarith

theorem le_nearest (h : 0 ≤ z) : z * (1 - 1 / 2 ^ 53) - 2 ^ (-1075 : ℤ) ≤ nearest z := by
  rcases h.eq_or_lt with rfl | pos
  · rw [nearest_zero]
    linarith [two_zpow_pos (-1075)]
  · have off := (abs_le.mp (abs_nearest_sub_le z)).1
    have half := half_lastPlace_le pos
    linarith

end CallMeter.Double
