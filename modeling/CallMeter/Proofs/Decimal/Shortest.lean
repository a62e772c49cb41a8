import CallMeter.Decimal.Shortest
import CallMeter.Proofs.Decimal.Digits
import Mathlib.Data.Rat.Floor
import Mathlib.Tactic.Linarith
import Mathlib.Tactic.Positivity
import Mathlib.Tactic.Ring

/-!
# Shortest decimals

A decimal grid that is finer than the rounding interval of a double has a point in it, next to
the double. So the search for the shortest decimal of a double ends on such a point, as long as
its finest grid is fine enough.

## Main definitions

* `Scientific.toRat`: the number a decimal stands for
* `Neighbourhood.Proper`: a rounding interval has the double inside

## Main results

* `leading_spec`: the exponent of the first decimal digit
* `onGrid_spec`, `onGrid_isSome`: what is found on a grid, and that a fine grid has a point
* `search_spec`: the shortest decimal lies in the interval and has seventeen digits at most
-/

namespace CallMeter.Decimal

/-- **The number** that a decimal stands for. -/
def Scientific.toRat (s : Scientific) : ℚ :=
  s.coefficient * 10 ^ s.exponent

theorem ten_zpow_pos (k : ℤ) : (0 : ℚ) < 10 ^ k :=
  zpow_pos (by norm_num) k

/-- A power of ten as a ratio of powers with natural exponents. -/
theorem ten_zpow_eq_div (k : ℤ) : (10 : ℚ) ^ k = (10 ^ k.toNat : ℕ) / (10 ^ (-k).toNat : ℕ) := by
  have split : k = (k.toNat : ℤ) - ((-k).toNat : ℤ) := by omega
  conv_lhs => rw [split, zpow_sub₀ (by norm_num), zpow_natCast, zpow_natCast]
  push_cast
  rfl

namespace Neighbourhood

variable {i : Neighbourhood}

/-- The double in the middle. -/
def value (i : Neighbourhood) : ℚ := i.middle / i.den

/-- **A proper rounding interval** has the double inside. -/
structure Proper (i : Neighbourhood) : Prop where
  den : 0 < i.den
  middle : 0 < i.middle
  low : i.low < i.middle
  high : i.middle < i.high

section

variable (h : i.Proper)
include h

theorem Proper.den_pos : (0 : ℚ) < i.den :=
  Nat.cast_pos.mpr h.den

theorem Proper.low_lt : (i.low : ℚ) / i.den < i.value :=
  div_lt_div_of_pos_right (Nat.cast_lt.mpr h.low) h.den_pos

theorem Proper.lt_high : i.value < (i.high : ℚ) / i.den :=
  div_lt_div_of_pos_right (Nat.cast_lt.mpr h.high) h.den_pos

end

/-! ## Points of a grid -/

/-- A comparison of a decimal with an end of the interval, cleared of denominators. -/
theorem cleared_le_iff (h : 0 < i.den) (n c : ℕ) (k : ℤ) :
    n * Nat.pow 10 (-k).toNat ≤ c * Nat.pow 10 k.toNat * i.den ↔ (n : ℚ) / i.den ≤ c * 10 ^ k := by
  have den : (0 : ℚ) < i.den := Nat.cast_pos.mpr h
  have scale : (0 : ℚ) < (10 ^ (-k).toNat : ℕ) := by positivity
  rw [ten_zpow_eq_div, ← mul_div_assoc, div_le_div_iff₀ den scale]
  exact_mod_cast Iff.rfl

theorem le_cleared_iff (h : 0 < i.den) (n c : ℕ) (k : ℤ) :
    c * Nat.pow 10 k.toNat * i.den ≤ n * Nat.pow 10 (-k).toNat ↔ c * 10 ^ k ≤ (n : ℚ) / i.den := by
  have den : (0 : ℚ) < i.den := Nat.cast_pos.mpr h
  have scale : (0 : ℚ) < (10 ^ (-k).toNat : ℕ) := by positivity
  rw [ten_zpow_eq_div, ← mul_div_assoc, div_le_div_iff₀ scale den]
  exact_mod_cast Iff.rfl

/-- **A decimal in the interval** is not beyond its ends. -/
theorem holds_bounds (h : i.Proper) {c : ℕ} {k : ℤ} (inside : i.holds c k = true) :
    (i.low : ℚ) / i.den ≤ c * 10 ^ k ∧ c * 10 ^ k ≤ (i.high : ℚ) / i.den := by
  rw [← cleared_le_iff h.den, ← le_cleared_iff h.den]
  unfold holds at inside
  dsimp only at inside
  split_ifs at inside
  · rw [Bool.and_eq_true, decide_eq_true_iff, decide_eq_true_iff] at inside
    exact inside
  · rw [Bool.and_eq_true, decide_eq_true_iff, decide_eq_true_iff] at inside
    exact ⟨inside.1.le, inside.2.le⟩

/-- An interval without its ends has no decimal at them. -/
theorem holds_strict (h : i.Proper) (ends : i.closed = false) {c : ℕ} {k : ℤ}
    (inside : i.holds c k = true) :
    (i.low : ℚ) / i.den < c * 10 ^ k ∧ c * 10 ^ k < (i.high : ℚ) / i.den := by
  unfold holds at inside
  dsimp only at inside
  rw [ends, if_neg Bool.false_ne_true, Bool.and_eq_true, decide_eq_true_iff,
    decide_eq_true_iff] at inside
  constructor
  · rw [← not_le, ← le_cleared_iff h.den, not_le]
    exact inside.1
  · rw [← not_le, ← cleared_le_iff h.den, not_le]
    exact inside.2

/-- A decimal strictly between the ends is in the interval. -/
theorem holds_of_lt (h : i.Proper) {c : ℕ} {k : ℤ} (low : (i.low : ℚ) / i.den < c * 10 ^ k)
    (high : c * 10 ^ k < (i.high : ℚ) / i.den) : i.holds c k = true := by
  rw [← not_le, ← le_cleared_iff h.den, not_le] at low
  rw [← not_le, ← cleared_le_iff h.den, not_le] at high
  unfold holds
  dsimp only
  split_ifs
  · rw [Bool.and_eq_true, decide_eq_true_iff, decide_eq_true_iff]
    exact ⟨low.le, high.le⟩
  · rw [Bool.and_eq_true, decide_eq_true_iff, decide_eq_true_iff]
    exact ⟨low, high⟩

/-- The double lies between two neighbours on a grid. -/
theorem floor_spec (h : i.Proper) (k : ℤ) :
    i.floor k * 10 ^ k ≤ i.value ∧ i.value < (i.floor k + 1 : ℕ) * 10 ^ k := by
  have below : i.floor k * Nat.pow 10 k.toNat * i.den ≤ i.middle * Nat.pow 10 (-k).toNat := by
    rw [mul_right_comm, mul_assoc]
    exact Nat.div_mul_le_self _ _
  have above : ¬ (i.floor k + 1) * Nat.pow 10 k.toNat * i.den ≤
      i.middle * Nat.pow 10 (-k).toNat := by
    rw [mul_right_comm, mul_assoc, not_le]
    have scale : 0 < i.den * Nat.pow 10 k.toNat :=
      Nat.mul_pos h.den (Nat.pow_pos (n := k.toNat) (show 0 < 10 by decide))
    exact (Nat.div_lt_iff_lt_mul scale).mp (Nat.lt_succ_self _)
  rw [le_cleared_iff h.den] at below above
  exact ⟨below, not_le.mp above⟩

theorem nearer_eq (tie : Tie) (c : ℕ) (k : ℤ) :
    i.nearer tie c k = c ∨ i.nearer tie c k = c + 1 := by
  unfold nearer
  dsimp only
  split_ifs
  · exact .inl rfl
  · exact .inr rfl
  · cases tie with
    | toEven =>
      dsimp only
      omega
    | up => exact .inr rfl

/-- **What is found on a grid** lies in the interval, next to the double. -/
theorem onGrid_spec {tie : Tie} {places : ℕ} {s : Scientific} (h : i.onGrid tie places = some s) :
    s.exponent = i.leading - ((places : ℤ) - 1) ∧ i.holds s.coefficient s.exponent = true ∧
      (s.coefficient = i.floor s.exponent ∨ s.coefficient = i.floor s.exponent + 1) := by
  unfold onGrid at h
  dsimp only at h
  split at h
  next here there =>
    obtain rfl := Option.some_inj.mp h
    refine ⟨rfl, ?_, nearer_eq tie _ _⟩
    rcases nearer_eq (i := i) tie (i.floor (i.leading - (places - 1)))
      (i.leading - (places - 1)) with same | next <;> dsimp only
    · rw [same]
      exact here
    · rw [next]
      exact there
  next here there =>
    obtain rfl := Option.some_inj.mp h
    exact ⟨rfl, here, .inl rfl⟩
  next here there =>
    obtain rfl := Option.some_inj.mp h
    exact ⟨rfl, there, .inr rfl⟩
  next => cases h

/-- **A grid finer than the interval** has a point in it. -/
theorem onGrid_isSome (h : i.Proper) (tie : Tie) {places : ℕ}
    (fine : (10 : ℚ) ^ (i.leading - ((places : ℤ) - 1)) < ((i.high : ℚ) - i.low) / i.den) :
    (i.onGrid tie places).isSome = true := by
  unfold onGrid
  dsimp only
  obtain ⟨k, hk⟩ : ∃ k, i.leading - ((places : ℤ) - 1) = k := ⟨_, rfl⟩
  rw [hk] at fine ⊢
  obtain ⟨below, above⟩ := floor_spec h k
  split
  next => rfl
  next => rfl
  next => rfl
  next here there =>
    -- both neighbours of the double would lie outside, on either side of the interval
    have low : i.floor k * (10 : ℚ) ^ k ≤ i.low / i.den := by
      by_contra inside
      have := holds_of_lt h (not_le.mp inside) (below.trans_lt h.lt_high)
      exact Bool.false_ne_true (here.symm.trans this)
    have high : (i.high : ℚ) / i.den ≤ (i.floor k + 1 : ℕ) * 10 ^ k := by
      by_contra inside
      have := holds_of_lt h (h.low_lt.trans above) (not_le.mp inside)
      exact Bool.false_ne_true (there.symm.trans this)
    rw [sub_div] at fine
    push_cast at high
    linarith

/-! ## The first digit -/

/-- **The exponent of the first decimal digit**. -/
theorem leading_spec (h : i.Proper) :
    10 ^ i.leading ≤ i.value ∧ i.value < (10 : ℚ) ^ (i.leading + 1) := by
  have den := h.den_pos
  rw [value, le_div_iff₀ den, div_lt_iff₀ den]
  by_cases one : i.den ≤ i.middle
  · rw [leading, if_pos one]
    have whole : 0 < i.middle / i.den := Nat.div_pos one h.den
    obtain ⟨below, above⟩ := length_digits_bounds whole
    obtain ⟨len, hlen⟩ : ∃ len, (digits (i.middle / i.den)).length = len + 1 :=
      Nat.exists_eq_succ_of_ne_zero (List.length_pos_of_ne_nil (digits_ne_nil _)).ne'
    rw [hlen, Nat.add_sub_cancel] at below
    rw [hlen] at above
    have lower : 10 ^ len * i.den ≤ i.middle :=
      (Nat.mul_le_mul_right _ below).trans (Nat.div_mul_le_self _ _)
    have upper : i.middle < 10 ^ (len + 1) * i.den := (Nat.div_lt_iff_lt_mul h.den).mp above
    rw [hlen, Nat.cast_succ, add_sub_cancel_right, ← Nat.cast_succ, zpow_natCast, zpow_natCast]
    exact ⟨by exact_mod_cast lower, by exact_mod_cast upper⟩
  · have less := not_le.mp one
    obtain ⟨r, hr⟩ : ∃ r, (i.den + i.middle - 1) / i.middle = r + 1 := by
      refine Nat.exists_eq_succ_of_ne_zero (Nat.div_pos ?_ h.middle).ne'
      omega
    have low : r * i.middle < i.den := by
      have whole := Nat.div_mul_le_self (i.den + i.middle - 1) i.middle
      rw [hr, Nat.succ_mul] at whole
      have := h.middle
      omega
    have high : i.den ≤ (r + 1) * i.middle := by
      have part : i.den + i.middle - 1 < (r + 2) * i.middle :=
        (Nat.div_lt_iff_lt_mul h.middle).mp (hr.trans_lt (Nat.lt_succ_self _))
      rw [Nat.succ_mul] at part
      omega
    have more : 0 < r := by
      rcases Nat.eq_zero_or_pos r with rfl | pos
      · omega
      · exact pos
    obtain ⟨below, above⟩ := length_digits_bounds more
    obtain ⟨len, hlen⟩ : ∃ len, (digits r).length = len + 1 :=
      Nat.exists_eq_succ_of_ne_zero (List.length_pos_of_ne_nil (digits_ne_nil _)).ne'
    rw [hlen, Nat.add_sub_cancel] at below
    rw [hlen] at above
    have lower : i.den ≤ 10 ^ (len + 1) * i.middle := high.trans (Nat.mul_le_mul_right _ above)
    have upper : 10 ^ len * i.middle < i.den := (Nat.mul_le_mul_right _ below).trans_lt low
    have first : i.leading = -((len + 1 : ℕ) : ℤ) := by
      rw [leading, if_neg one]
      dsimp only
      rw [hr, if_neg (by omega), Nat.add_sub_cancel, hlen]
    have next : i.leading + 1 = -(len : ℤ) := by omega
    have scale : (0 : ℚ) < 10 ^ len := by positivity
    have scale' : (0 : ℚ) < 10 ^ (len + 1) := by positivity
    rw [next, first, zpow_neg, zpow_neg, zpow_natCast, zpow_natCast, inv_mul_eq_div,
      inv_mul_eq_div, div_le_iff₀' scale', lt_div_iff₀' scale]
    exact ⟨by exact_mod_cast lower, by exact_mod_cast upper⟩

/-! ## The search -/

/-- A neighbour of the double on a grid of so many digits has no more digits. -/
theorem coefficient_bounds (h : i.Proper) {places : ℕ} (pos : 0 < places) {k : ℤ}
    (hk : k = i.leading - ((places : ℤ) - 1)) : 0 < i.floor k ∧ i.floor k + 1 ≤ 10 ^ places := by
  obtain ⟨below, above⟩ := floor_spec h k
  obtain ⟨first, last⟩ := leading_spec h
  have unit := ten_zpow_pos k
  constructor
  · have step : (10 : ℚ) ^ k ≤ 10 ^ i.leading := zpow_le_zpow_right₀ (by norm_num) (by omega)
    have more : 1 * (10 : ℚ) ^ k < (i.floor k + 1 : ℕ) * 10 ^ k := by linarith
    have less : 1 < i.floor k + 1 := by exact_mod_cast lt_of_mul_lt_mul_right more unit.le
    omega
  · have digits : (10 : ℚ) ^ (i.leading + 1) = 10 ^ places * 10 ^ k := by
      rw [← zpow_natCast, ← zpow_add₀ (by norm_num), hk]
      congr 1
      ring
    have less : (i.floor k : ℚ) * 10 ^ k < 10 ^ places * 10 ^ k := by linarith
    have bound : (i.floor k : ℚ) < 10 ^ places := lt_of_mul_lt_mul_right less unit.le
    exact_mod_cast bound

/-- **The search ends** on a decimal in the interval with seventeen digits at most, if the grid of
seventeen digits is finer than the interval. -/
theorem search_spec (h : i.Proper) (tie : Tie)
    (fine : (10 : ℚ) ^ (i.leading - 16) < ((i.high : ℚ) - i.low) / i.den) :
    ∃ s, (List.range 17).findSome? (fun n => i.onGrid tie (n + 1)) = some s ∧
      i.holds s.coefficient s.exponent = true ∧ 0 < s.coefficient ∧ s.coefficient ≤ 10 ^ 17 := by
  have last : (i.onGrid tie (16 + 1)).isSome = true := onGrid_isSome h tie (by exact_mod_cast fine)
  have some : ((List.range 17).findSome? fun n => i.onGrid tie (n + 1)).isSome = true :=
    List.findSome?_isSome_iff.mpr ⟨16, List.mem_range.mpr (by decide), last⟩
  obtain ⟨s, hs⟩ := Option.isSome_iff_exists.mp some
  obtain ⟨n, hn, found⟩ := List.exists_of_findSome?_eq_some hs
  obtain ⟨exponent, inside, near⟩ := onGrid_spec found
  obtain ⟨least, most⟩ := coefficient_bounds h (Nat.succ_pos n) exponent
  have few : 10 ^ (n + 1) ≤ 10 ^ 17 :=
    Nat.pow_le_pow_right (by decide) (List.mem_range.mp hn)
  refine ⟨s, hs, inside, ?_, ?_⟩ <;> rcases near with same | next <;> omega

end Neighbourhood

end CallMeter.Decimal
