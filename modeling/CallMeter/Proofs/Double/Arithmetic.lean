import CallMeter.Proofs.Double.Parts

/-!
# Arithmetic of doubles

An operation finds the digits of its exact result, with two more bits for what comes after them,
cuts them off at the last place and rounds. What comes out is the double nearest to the exact
result, or an infinity if that is too large.

## Main definitions

* `Shows`: a mantissa with its residual bits stands for a number
* `IsNearest`: a double is the one nearest to a number

## Main results

* `Shows.shiftRight`: digits move behind the point without loss
* `rounds_roundWithAccuracy`: digits are cut off at the last place and rounded
* `isNearest_mul`, `isNearest_div`, `isNearest_add`, `isNearest_toFloat`: the operations round to
  the nearest double
-/

namespace CallMeter.Double

open Float.Model (Format UnpackedFloat totalExponent)
open Float.Model.UnpackedFloat

/-! ## Residual bits -/

/-- **A mantissa with its residual bits stands for a number** in units of its last place. -/
def Shows (em : ExtendedMantissa) (x : ℚ) : Prop :=
  match em.roundBit, em.stickyBit with
  | false, false => x = em.mantissa
  | false, true => em.mantissa < x ∧ x < em.mantissa + 1 / 2
  | true, false => x = em.mantissa + 1 / 2
  | true, true => em.mantissa + 1 / 2 < x ∧ x < em.mantissa + 1

variable {em : ExtendedMantissa} {x z : ℚ}

theorem Shows.bounds (h : Shows em x) : em.mantissa ≤ x ∧ x < em.mantissa + 1 := by
  obtain ⟨m, r, s⟩ := em
  cases r <;> cases s <;> simp only [Shows] at h <;> constructor <;> linarith

theorem Shows.floor_eq (h : Shows em x) : ⌊x⌋ = em.mantissa := by
  rw [Int.floor_eq_iff]
  exact_mod_cast h.bounds

/-- The residual bits tell how to round. -/
theorem Shows.roundedMantissa_eq (h : Shows em x) : (em.roundedMantissa : ℤ) = halfEven x := by
  have floor := h.floor_eq
  have parts := Int.floor_add_fract x
  rw [floor] at parts
  rw [halfEven, floor]
  obtain ⟨m, r, s⟩ := em
  push_cast at parts
  cases r <;> cases s <;> simp only [Shows] at h <;>
    simp only [ExtendedMantissa.roundedMantissa, ExtendedMantissa.accuracy,
      Accuracy.roundToNearestEven]
  · rw [if_pos (by linarith)]
  · rw [if_pos (by linarith)]
  · rw [if_neg (by linarith), if_neg (by linarith)]
    push_cast
    rfl
  · rw [if_neg (by linarith), if_pos (by linarith)]
    push_cast
    rfl

@[simp] theorem mantissa_ofMantissaAndAccuracy (m : ℕ) (accuracy : Accuracy) :
    (ExtendedMantissa.ofMantissaAndAccuracy m accuracy).mantissa = m := by
  cases accuracy with
  | exact => rfl
  | inexact order => cases order <;> rfl

/-- **One digit moves behind the point**: it becomes the round bit, and what was there is kept in
the sticky bit. -/
theorem Shows.shiftRightOne (h : Shows em x) : Shows em.shiftRightOne (x / 2) := by
  obtain ⟨m, r, s⟩ := em
  have whole : (m : ℚ) = 2 * (m / 2 : ℕ) + (m % 2 : ℕ) := by
    exact_mod_cast (Nat.div_add_mod m 2).symm
  rcases Nat.mod_two_eq_zero_or_one m with even | odd
  · rw [even, Nat.cast_zero] at whole
    have bit : (m % 2 != 0) = false := by rw [even]; rfl
    cases r <;> cases s <;> simp only [Shows] at h <;>
      simp only [Shows, ExtendedMantissa.shiftRightOne, bit, Bool.or_false, Bool.or_true]
    · linarith
    all_goals constructor <;> linarith
  · rw [odd, Nat.cast_one] at whole
    have bit : (m % 2 != 0) = true := by rw [odd]; rfl
    cases r <;> cases s <;> simp only [Shows] at h <;>
      simp only [Shows, ExtendedMantissa.shiftRightOne, bit, Bool.or_false, Bool.or_true]
    · linarith
    all_goals constructor <;> linarith

/-- **Digits move behind the point without loss.** -/
theorem Shows.shiftRight (h : Shows em x) (n : ℕ) : Shows (em >>> n) (x / 2 ^ n) := by
  show Shows (n.repeat ExtendedMantissa.shiftRightOne em) _
  induction n with
  | zero => simpa [Nat.repeat] using h
  | succ n ih =>
    rw [Nat.repeat, pow_succ, ← div_div]
    exact ih.shiftRightOne

/-! ## Places -/

variable {m : ℕ} {e : ℤ} {accuracy : Accuracy}

/-- The digits in front of the point, and the exponent of the first of them. -/
theorem log_eq_of_floor (pos : 0 < m) (low : m ≤ z / 2 ^ e) (high : z / 2 ^ e < m + 1) :
    Int.log 2 z = m.log2 + e := by
  have unit := two_zpow_pos e
  rw [le_div_iff₀ unit] at low
  rw [div_lt_iff₀ unit] at high
  have front : (2 : ℚ) ^ (m.log2 : ℤ) ≤ m := by
    rw [zpow_natCast]
    exact_mod_cast (Nat.le_log2 pos.ne').mp le_rfl
  have back : (m : ℚ) + 1 ≤ 2 ^ ((m.log2 : ℤ) + 1) := by
    rw [← Nat.cast_succ, ← Nat.cast_succ, zpow_natCast]
    exact_mod_cast (Nat.log2_lt pos.ne').mp (Nat.lt_succ_self _)
  have lower : (2 : ℚ) ^ ((m.log2 : ℤ) + e) ≤ z := by
    rw [zpow_add₀ two_ne_zero]
    exact (mul_le_mul_of_nonneg_right front unit.le).trans low
  have upper : z < (2 : ℚ) ^ ((m.log2 : ℤ) + e + 1) := by
    rw [add_right_comm, zpow_add₀ two_ne_zero]
    exact high.trans_le (mul_le_mul_of_nonneg_right back unit.le)
  have atLeast := le_log lower
  have atMost := log_lt ((two_zpow_pos _).trans_le lower) upper
  omega

theorem targetExponent_eq (t : ℤ) :
    Format.binary64.targetExponent t = max (t - 53) (-1074) := rfl

/-- **The last place from the digits**, as long as no digit of a double is missing behind them. -/
theorem targetExponent_totalExponent (hz : 0 < z) (low : m ≤ z / 2 ^ e)
    (high : z / 2 ^ e < m + 1) (he : e ≤ lastPlace z) :
    Format.binary64.targetExponent (totalExponent m e) = lastPlace z := by
  rw [targetExponent_eq, totalExponent]
  rcases Nat.eq_zero_or_pos m with rfl | pos
  · -- no digit in front of the point: the number lies below the last place of all
    rw [div_lt_iff₀ (two_zpow_pos e), Nat.cast_zero, zero_add, one_mul] at high
    have log := log_lt hz high
    rw [lastPlace] at *
    have none : Nat.log2 0 = 0 := rfl
    omega
  · rw [lastPlace, log_eq_of_floor pos low high]
    omega

/-- The number in units of its last place has fifty-three digits, or fewer at the last place of
all. -/
theorem scaled_bounds (hz : 0 < z) :
    z / 2 ^ lastPlace z < 2 ^ 53 ∧ (lastPlace z = -1074 ∨ 2 ^ 52 ≤ z / 2 ^ lastPlace z) := by
  have unit := two_zpow_pos (lastPlace z)
  constructor
  · rw [div_lt_iff₀ unit, ← zpow_natCast, ← zpow_add₀ two_ne_zero]
    refine (lt_zpow_log z).trans_le (zpow_le_zpow_right₀ one_le_two ?_)
    rw [lastPlace]
    omega
  · rcases eq_or_ne (lastPlace z) (-1074) with least | other
    · exact .inl least
    · refine .inr ?_
      rw [le_div_iff₀ unit, ← zpow_natCast, ← zpow_add₀ two_ne_zero]
      refine le_trans (zpow_le_zpow_right₀ one_le_two ?_) (zpow_log_le hz)
      rw [lastPlace] at *
      omega

/-! ## Rounding -/

/-- **Parts that round a number**: a canonical mantissa and exponent of the double nearest to
it. -/
def Rounds (z : ℚ) : UnpackedFloat → Prop
  | .zero s => s = .positive ∧ nearest z = 0
  | .finite s m e _ => s = .positive ∧ Canonical m e ∧ m * 2 ^ e = nearest z
  | _ => False

theorem shiftToExponent_of_le {t : ℤ} (h : e ≤ t) :
    shiftToExponent m e accuracy t =
      (ExtendedMantissa.ofMantissaAndAccuracy m accuracy >>> (t - e).toNat, t) := by
  rw [shiftToExponent]
  congr 1
  omega

theorem shiftToExponent_of_ge {t : ℤ} (h : t ≤ e) :
    shiftToExponent m e .exact t = (⟨m, false, false⟩, e) := by
  have none : (t - e).toNat = 0 := by omega
  rw [shiftToExponent, none, Nat.cast_zero, add_zero]
  rfl

/-- **Digits are cut off at the last place and rounded**, and a carry into a new first digit moves
the last place. -/
theorem rounds_roundWithAccuracy (hz : 0 < z)
    (shows : Shows (.ofMantissaAndAccuracy m accuracy) (z / 2 ^ e)) (he : e ≤ lastPlace z) :
    Rounds z (roundWithAccuracy Format.binary64 .positive m e accuracy) := by
  have bounds := shows.bounds
  rw [mantissa_ofMantissaAndAccuracy] at bounds
  have first : shiftToTargetExponent Format.binary64 m e accuracy =
      (ExtendedMantissa.ofMantissaAndAccuracy m accuracy >>> (lastPlace z - e).toNat,
        lastPlace z) := by
    rw [shiftToTargetExponent, targetExponent_totalExponent hz bounds.1 bounds.2 he]
    exact shiftToExponent_of_le he
  have shifted := shows.shiftRight (lastPlace z - e).toNat
  have scaled : z / 2 ^ e / 2 ^ (lastPlace z - e).toNat = z / 2 ^ lastPlace z := by
    rw [div_div, ← zpow_natCast, ← zpow_add₀ two_ne_zero, Int.toNat_of_nonneg (by omega),
      add_sub_cancel]
  rw [scaled] at shifted
  obtain ⟨M, hM⟩ : ∃ M, (ExtendedMantissa.ofMantissaAndAccuracy m accuracy >>>
      (lastPlace z - e).toNat).roundedMantissa = M := ⟨_, rfl⟩
  have whole : (M : ℤ) = halfEven (z / 2 ^ lastPlace z) := hM ▸ shifted.roundedMantissa_eq
  have rounded : (M : ℚ) * 2 ^ lastPlace z = nearest z := by
    rw [nearest, ← whole, Int.cast_natCast]
  obtain ⟨upper, lower⟩ := scaled_bounds hz
  have most : M ≤ 2 ^ 53 := by
    have digits : (M : ℤ) ≤ (2 ^ 53 : ℕ) := whole ▸ halfEven_le (by push_cast; exact upper.le)
    exact_mod_cast digits
  have least : lastPlace z = -1074 ∨ 2 ^ 52 ≤ M := by
    refine lower.imp_right fun full => ?_
    have digits : ((2 ^ 52 : ℕ) : ℤ) ≤ M := whole ▸ le_halfEven (by push_cast; exact full)
    exact_mod_cast digits
  have place : -1074 ≤ lastPlace z := le_max_right _ _
  rw [roundWithAccuracy, first]
  simp only [hM]
  rcases most.lt_or_eq with short | carry
  · have second : shiftToTargetExponent Format.binary64 M (lastPlace z) .exact =
        (⟨M, false, false⟩, lastPlace z) := by
      refine shiftToExponent_of_ge ?_
      rw [targetExponent_eq, totalExponent]
      rcases Nat.eq_zero_or_pos M with rfl | pos
      · have none : Nat.log2 0 = 0 := rfl
        omega
      · have digits := (Nat.log2_lt pos.ne').mpr short
        omega
    simp only [second]
    split_ifs with zero
    · refine ⟨rfl, ?_⟩
      rw [← rounded, zero, Nat.cast_zero, zero_mul]
    · exact ⟨rfl, ⟨short, place, least⟩, rounded⟩
  · have second : shiftToTargetExponent Format.binary64 M (lastPlace z) .exact =
        (⟨2 ^ 52, false, false⟩, lastPlace z + 1) := by
      have target : Format.binary64.targetExponent (totalExponent M (lastPlace z)) =
          lastPlace z + 1 := by
        have digits : Nat.log2 (2 ^ 53) = 53 := by decide
        rw [targetExponent_eq, totalExponent, carry, digits]
        omega
      rw [shiftToTargetExponent, target, shiftToExponent_of_le (by omega), add_sub_cancel_left,
        carry]
      rfl
    simp only [second]
    refine ⟨rfl, ⟨by norm_num, by omega, .inr le_rfl⟩, ?_⟩
    rw [← rounded, carry, zpow_add₀ two_ne_zero]
    push_cast
    ring

/-- Zeros behind a mantissa lower its exponent. -/
theorem mul_zpow_eq_shiftLeft {k : ℕ} {t : ℤ} (h : e = k + t) :
    (m : ℚ) * 2 ^ e = (m <<< k : ℕ) * 2 ^ t := by
  rw [h, zpow_add₀ two_ne_zero, zpow_natCast, Nat.shiftLeft_eq]
  push_cast
  ring

/-- An exact mantissa is rounded the same way after zeros are put behind it. -/
theorem rounds_round (pos : 0 < m) :
    Rounds (m * 2 ^ e) (UnpackedFloat.round Format.binary64 .positive m e) := by
  have unit := two_zpow_pos e
  have positive : (0 : ℚ) < m * 2 ^ e := mul_pos (Nat.cast_pos.mpr pos) unit
  have log : Int.log 2 ((m : ℚ) * 2 ^ e) = m.log2 + e := by
    refine log_eq_of_floor pos ?_ ?_ <;> rw [mul_div_cancel_right₀ _ unit.ne']
    exact lt_add_one _
  have target : Format.binary64.targetExponent (totalExponent m e) = lastPlace (m * 2 ^ e) := by
    rw [targetExponent_eq, totalExponent, lastPlace, log]
    omega
  simp only [UnpackedFloat.round, decreaseExponent, target]
  refine rounds_roundWithAccuracy positive ?_ (by omega)
  obtain ⟨k, hk⟩ : ∃ k, (e - lastPlace (m * 2 ^ e)).toNat = k := ⟨_, rfl⟩
  rw [hk, mul_zpow_eq_shiftLeft (show e = k + (e - k) by omega)]
  exact mul_div_cancel_right₀ _ (two_zpow_pos _).ne'

/-! ## Operations -/

/-- **A double is the one nearest to a number** that is not negative, or infinite if that is too
large. -/
inductive IsNearest (x : Float) (z : ℚ) : Prop
  | finite (small : nearest z < 2 ^ 1024) (unsigned : Unsigned x) (value_eq : value x = nearest z)
  | large (big : 2 ^ 1024 ≤ nearest z) (h : parts x = .infinity .positive)

theorem isNearest_pack {u : UnpackedFloat} (h : Rounds z u) :
    IsNearest (.ofModel (.pack u)) z := by
  cases u with
  | zero s =>
    obtain ⟨rfl, none⟩ := h
    have same : parts (.ofModel (.pack (.zero .positive))) = .zero .positive :=
      @unpack_packedZero .binary64 .positive
    refine .finite (by rw [none]; positivity) (.zero same) ?_
    rw [value, same, none]
  | finite s m e pos =>
    obtain ⟨rfl, canonical, number⟩ := h
    have back := unpack_pack .positive pos canonical
    rw [← parts_ofModel_pack] at back
    by_cases small : e ≤ 971
    · rw [if_pos small] at back
      refine .finite ?_ (.finite back) ?_
      · have below : (m : ℚ) < 2 ^ (53 : ℤ) := by exact_mod_cast canonical.lt
        calc nearest z = m * 2 ^ e := number.symm
          _ < 2 ^ (53 : ℤ) * 2 ^ e := mul_lt_mul_of_pos_right below (two_zpow_pos e)
          _ = 2 ^ (53 + e) := (zpow_add₀ two_ne_zero _ _).symm
          _ ≤ 2 ^ (1024 : ℤ) := zpow_le_zpow_right₀ one_le_two (by omega)
      · rw [value, back]
        exact number
    · rw [if_neg small] at back
      refine .large ?_ back
      have above : (2 : ℚ) ^ (52 : ℤ) ≤ m := by
        exact_mod_cast canonical.full.resolve_left (by omega)
      calc (2 : ℚ) ^ (1024 : ℤ) ≤ 2 ^ (52 + e) := zpow_le_zpow_right₀ one_le_two (by omega)
        _ = 2 ^ (52 : ℤ) * 2 ^ e := zpow_add₀ two_ne_zero _ _
        _ ≤ m * 2 ^ e := mul_le_mul_of_nonneg_right above (two_zpow_pos e).le
        _ = nearest z := number
  | infinity s => exact h.elim
  | notANumber => exact h.elim

theorem isNearest_zero {x : Float} (h : parts x = .zero .positive) : IsNearest x 0 := by
  refine .finite (by rw [nearest_zero]; positivity) (.zero h) ?_
  rw [value, h, nearest_zero]

variable {x y : Float}

theorem value_of_finite {m : ℕ} {e : ℤ} {pos : 0 < m} (h : parts x = .finite .positive m e pos) :
    value x = m * 2 ^ e := by
  rw [value, h]
  rfl

theorem value_of_zero {s : Sign} (h : parts x = .zero s) : value x = 0 := by
  rw [value, h]

/-- **A product** is rounded to the nearest double. -/
theorem isNearest_mul (hx : Unsigned x) (hy : Unsigned y) :
    IsNearest (x * y) (value x * value y) := by
  have product : x * y = .ofModel (.pack (UnpackedFloat.mul Format.binary64 (parts x) (parts y))) :=
    rfl
  rcases hx with hx | @⟨m, e, pos, hx⟩
  · rw [value_of_zero hx, zero_mul]
    apply isNearest_zero
    rw [product, hx]
    rcases hy with hy | hy <;> rw [hy] <;> exact @unpack_packedZero .binary64 .positive
  rcases hy with hy | @⟨m', e', pos', hy⟩
  · rw [value_of_zero hy, mul_zero]
    apply isNearest_zero
    rw [product, hx, hy]
    exact unpack_packedZero
  · have exact : value x * value y = (m * m' : ℕ) * 2 ^ (e + e') := by
      rw [value_of_finite hx, value_of_finite hy, zpow_add₀ two_ne_zero]
      push_cast
      ring
    have both : 0 < m * m' := Nat.mul_pos pos pos'
    rw [product, hx, hy, exact]
    refine isNearest_pack (rounds_roundWithAccuracy ?_ ?_ ?_)
    · exact mul_pos (Nat.cast_pos.mpr both) (two_zpow_pos _)
    · exact mul_div_cancel_right₀ _ (two_zpow_pos _).ne'
    · -- a double with few digits has the last place of all, any other has digits enough
      have log : Int.log 2 (((m * m' : ℕ) : ℚ) * 2 ^ (e + e')) = (m * m').log2 + (e + e') := by
        refine log_eq_of_floor both ?_ ?_ <;>
          rw [mul_div_cancel_right₀ _ (two_zpow_pos (e + e')).ne']
        exact lt_add_one _
      obtain ⟨⟨-, low, full⟩, -⟩ := canonical_parts hx
      obtain ⟨⟨-, low', full'⟩, -⟩ := canonical_parts hy
      rw [lastPlace, log]
      rcases full with least | full
      · rcases full' with least' | full'
        · omega
        · have long : 52 ≤ (m * m').log2 :=
            (Nat.le_log2 both.ne').mpr (full'.trans (Nat.le_mul_of_pos_left _ pos))
          omega
      · have long : 52 ≤ (m * m').log2 :=
          (Nat.le_log2 both.ne').mpr (full.trans (Nat.le_mul_of_pos_right _ pos'))
        omega

/-- A whole number in units of a power of two is rounded to the nearest double. -/
theorem isNearest_normalize (n : ℕ) (e : ℤ) :
    IsNearest (.ofModel (.pack (normalize Format.binary64 n e .positive))) (n * 2 ^ e) := by
  rcases Nat.eq_zero_or_pos n with rfl | pos
  · simp only [Nat.cast_zero, zero_mul]
    exact isNearest_zero unpack_packedZero
  · have sign : compare (n : ℤ) 0 = .gt := compare_gt_iff_gt.mpr (by exact_mod_cast pos)
    simp only [UnpackedFloat.normalize, sign, Int.toNat_natCast]
    exact isNearest_pack (rounds_round pos)

/-- **A counter** is rounded to the nearest double. -/
theorem isNearest_toFloat (n : UInt64) : IsNearest n.toFloat n.toNat := by
  have whole := isNearest_normalize n.toNat 0
  rw [zpow_zero, mul_one] at whole
  exact whole

/-- A double that is not negative is nearest to itself. -/
theorem nearest_value (hx : Unsigned x) : nearest (value x) = value x := by
  rcases hx with hx | @⟨m, e, pos, hx⟩
  · rw [value_of_zero hx, nearest_zero]
  · obtain ⟨canonical, -⟩ := canonical_parts hx
    rw [value_of_finite hx, nearest_of_grid canonical.lt canonical.le]

theorem value_nonneg (hx : Unsigned x) : 0 ≤ value x := by
  rcases hx with hx | @⟨m, e, pos, hx⟩
  · rw [value_of_zero hx]
  · rw [value_of_finite hx]
    exact mul_nonneg (Nat.cast_nonneg m) (two_zpow_pos e).le

theorem value_lt (hx : Unsigned x) : value x < 2 ^ 1024 := by
  rcases hx with hx | @⟨m, e, pos, hx⟩
  · rw [value_of_zero hx]
    positivity
  · obtain ⟨canonical, most⟩ := canonical_parts hx
    have below : (m : ℚ) < 2 ^ (53 : ℤ) := by exact_mod_cast canonical.lt
    calc value x = m * 2 ^ e := value_of_finite hx
      _ < 2 ^ (53 : ℤ) * 2 ^ e := mul_lt_mul_of_pos_right below (two_zpow_pos e)
      _ = 2 ^ (53 + e) := (zpow_add₀ two_ne_zero _ _).symm
      _ ≤ 2 ^ (1024 : ℤ) := zpow_le_zpow_right₀ one_le_two (by omega)

/-- **A sum** is rounded to the nearest double. -/
theorem isNearest_add (hx : Unsigned x) (hy : Unsigned y) :
    IsNearest (x + y) (value x + value y) := by
  have sum : x + y = .ofModel (.pack (UnpackedFloat.add Format.binary64 (parts x) (parts y))) :=
    rfl
  have alone {m : ℕ} {e : ℤ} {pos : 0 < m} {z : Float} (hz : parts z = .finite .positive m e pos) :
      IsNearest (.ofModel (.pack (.finite .positive m e pos))) (value z) := by
    obtain ⟨canonical, -⟩ := canonical_parts hz
    refine isNearest_pack ⟨rfl, canonical, ?_⟩
    rw [nearest_value (.finite hz), value_of_finite hz]
  rcases hx with hx | @⟨m, e, pos, hx⟩
  · rw [value_of_zero hx, zero_add, sum, hx]
    rcases hy with hy | @⟨m', e', pos', hy⟩ <;> rw [hy]
    · rw [value_of_zero hy]
      exact isNearest_zero (@unpack_packedZero .binary64 .positive)
    · exact alone hy
  rcases hy with hy | @⟨m', e', pos', hy⟩
  · rw [value_of_zero hy, add_zero, sum, hx, hy]
    exact alone hx
  · obtain ⟨k, hk⟩ : ∃ k, (e - min e e').toNat = k := ⟨_, rfl⟩
    obtain ⟨k', hk'⟩ : ∃ k, (e' - min e e').toNat = k := ⟨_, rfl⟩
    have exact : value x + value y = (m <<< k + m' <<< k' : ℕ) * 2 ^ min e e' := by
      rw [value_of_finite hx, value_of_finite hy,
        mul_zpow_eq_shiftLeft (show e = k + min e e' by omega),
        mul_zpow_eq_shiftLeft (show e' = k' + min e e' by omega), Nat.cast_add, add_mul]
    rw [sum, hx, hy, exact]
    simp only [UnpackedFloat.add, decreaseExponent, hk, hk', Sign.apply]
    exact isNearest_normalize (m <<< k + m' <<< k') (min e e')

/-- The residual bits of a quotient. -/
theorem shows_div {m d : ℕ} (pos : 0 < d) :
    Shows (.ofMantissaAndAccuracy (m / d) (accuracyOfFraction (m % d) d)) (m / d) := by
  have unit : (0 : ℚ) < d := Nat.cast_pos.mpr pos
  have whole : (m : ℚ) / d = (m / d : ℕ) + (m % d : ℕ) / d := by
    rw [eq_comm, ← eq_sub_iff_add_eq', div_eq_iff unit.ne', sub_mul, div_mul_cancel₀ _ unit.ne']
    have parts : (m : ℚ) = d * (m / d : ℕ) + (m % d : ℕ) := by
      exact_mod_cast (Nat.div_add_mod m d).symm
    linarith
  have less : ((m % d : ℕ) : ℚ) < d := by exact_mod_cast Nat.mod_lt m pos
  obtain ⟨r, hr⟩ : ∃ r, m % d = r := ⟨_, rfl⟩
  rw [whole]
  rw [hr] at less ⊢
  rw [accuracyOfFraction]
  split_ifs with zero
  · rw [zero, Nat.cast_zero, zero_div, add_zero]
    rfl
  · have some : (0 : ℚ) < r / d := div_pos (Nat.cast_pos.mpr (Nat.pos_of_ne_zero zero)) unit
    have part : (r : ℚ) / d < 1 := (div_lt_one unit).mpr less
    rcases hc : compare (2 * r) d with _ | _ | _
    · have half : (r : ℚ) / d < 1 / 2 := by
        have twice : ((2 * r : ℕ) : ℚ) < d := by exact_mod_cast compare_lt_iff_lt.mp hc
        push_cast at twice
        rw [div_lt_iff₀ unit]
        linarith
      rw [Shows, mantissa_ofMantissaAndAccuracy]
      constructor <;> linarith
    · have half : (r : ℚ) / d = 1 / 2 := by
        have twice : ((2 * r : ℕ) : ℚ) = d := by exact_mod_cast compare_eq_iff_eq.mp hc
        push_cast at twice
        rw [div_eq_iff unit.ne']
        linarith
      show _ = _
      rw [half]
      rfl
    · have half : 1 / 2 < (r : ℚ) / d := by
        have twice : (d : ℚ) < (2 * r : ℕ) := by exact_mod_cast compare_gt_iff_gt.mp hc
        push_cast at twice
        rw [lt_div_iff₀ unit]
        linarith
      rw [Shows, mantissa_ofMantissaAndAccuracy]
      constructor <;> linarith

/-- **A quotient** is rounded to the nearest double. -/
theorem isNearest_div (hx : Unsigned x) (hy : Unsigned y) (nonzero : value y ≠ 0) :
    IsNearest (x / y) (value x / value y) := by
  have quotient : x / y =
      .ofModel (.pack (UnpackedFloat.div Format.binary64 (parts x) (parts y))) := rfl
  rcases hy with hy | @⟨m', e', pos', hy⟩
  · exact absurd (value_of_zero hy) nonzero
  rcases hx with hx | @⟨m, e, pos, hx⟩
  · rw [value_of_zero hx, zero_div]
    apply isNearest_zero
    rw [quotient, hx, hy]
    exact unpack_packedZero
  · obtain ⟨t, ht⟩ : ∃ t, Format.binary64.targetExponent
      (totalExponent m e - totalExponent m' e') = t := ⟨_, rfl⟩
    obtain ⟨k, hk⟩ : ∃ k, (e - e' - min (e - e') t).toNat = k := ⟨_, rfl⟩
    have unit := two_zpow_pos (min (e - e') t)
    have exact : value x / value y = ((m <<< k : ℕ) : ℚ) / m' * 2 ^ min (e - e') t := by
      rw [value_of_finite hx, value_of_finite hy, mul_div_mul_comm, ← zpow_sub₀ two_ne_zero,
        div_mul_eq_mul_div, div_mul_eq_mul_div,
        mul_zpow_eq_shiftLeft (show e - e' = k + min (e - e') t by omega)]
    have positive : 0 < value x / value y := by
      rw [value_of_finite hx, value_of_finite hy]
      have := two_zpow_pos e
      have := two_zpow_pos e'
      positivity
    rw [quotient, hx, hy]
    simp only [UnpackedFloat.div, divCore, ht, hk]
    refine isNearest_pack (rounds_roundWithAccuracy positive ?_ ?_)
    · rw [exact, mul_div_cancel_right₀ _ unit.ne']
      exact shows_div pos'
    · have front : (2 : ℚ) ^ (m.log2 : ℤ) ≤ m := by
        rw [zpow_natCast]
        exact_mod_cast (Nat.le_log2 pos.ne').mp le_rfl
      have back : (m' : ℚ) < 2 ^ ((m'.log2 : ℤ) + 1) := by
        rw [← Nat.cast_succ, zpow_natCast]
        exact_mod_cast (Nat.log2_lt pos'.ne').mp (Nat.lt_succ_self _)
      have below : (2 : ℚ) ^ ((m.log2 : ℤ) - (m'.log2 + 1) + (e - e')) ≤ value x / value y := by
        rw [value_of_finite hx, value_of_finite hy, mul_div_mul_comm, ← zpow_sub₀ two_ne_zero,
          zpow_add₀ two_ne_zero, zpow_sub₀ two_ne_zero]
        refine mul_le_mul_of_nonneg_right ?_ (two_zpow_pos _).le
        exact div_le_div₀ (Nat.cast_nonneg m) front (Nat.cast_pos.mpr pos') back.le
      have log := le_log below
      rw [targetExponent_eq, totalExponent, totalExponent] at ht
      rw [lastPlace]
      omega

end CallMeter.Double
