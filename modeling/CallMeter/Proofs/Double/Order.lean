import CallMeter.Proofs.Double.Arithmetic

/-!
# Order of doubles

Doubles compare as the numbers they stand for. An operation whose result is finite had finite
operands, so that a finite result of several operations is a rounded number at each step.

## Main results

* `compare_eq`, `le_iff_value_le`: the order is that of the numbers
* `parts_eq_of_value_eq`: a number has one double without a sign
* `IsNearest.unsigned`, `IsNearest.value_eq`: a finite result is a rounded number
* `isFinite_of_add`, `isFinite_of_mul`, `isFinite_of_div`: a finite result has finite operands
* `unsigned_toFloat`, `value_toFloat`: the double of a counter
* `unsigned_div`, `unsigned_div_toFloat`: a quotient by one or more, and by a counter
-/

namespace CallMeter.Double

open Float.Model (Format UnpackedFloat)
open Float.Model.UnpackedFloat

variable {x y : Float} {z : ℚ}

/-! ## Comparing -/

/-- Canonical parts compare as the numbers they stand for: first by the last place. -/
theorem compare_parts {m m' : ℕ} {e e' : ℤ} (h : Canonical m e) (h' : Canonical m' e') :
    (compare e e').then (compare m m') = compare ((m : ℚ) * 2 ^ e) (m' * 2 ^ e') := by
  -- a number with the higher last place has all its digits, so it is the larger one
  have apart {m m' : ℕ} {e e' : ℤ} (h : Canonical m e) (h' : Canonical m' e') (lt : e < e') :
      (m : ℚ) * 2 ^ e < m' * 2 ^ e' := by
    have below : (m : ℚ) < 2 ^ (53 : ℤ) := by exact_mod_cast h.lt
    have above : (2 : ℚ) ^ (52 : ℤ) ≤ m' := by
      have low := h.le
      exact_mod_cast h'.full.resolve_left (by omega)
    calc (m : ℚ) * 2 ^ e < 2 ^ (53 : ℤ) * 2 ^ e := mul_lt_mul_of_pos_right below (two_zpow_pos e)
      _ = 2 ^ (53 + e) := (zpow_add₀ two_ne_zero _ _).symm
      _ ≤ 2 ^ (52 + e') := zpow_le_zpow_right₀ one_le_two (by omega)
      _ = 2 ^ (52 : ℤ) * 2 ^ e' := zpow_add₀ two_ne_zero _ _
      _ ≤ m' * 2 ^ e' := mul_le_mul_of_nonneg_right above (two_zpow_pos e').le
  rcases lt_trichotomy e e' with lt | rfl | gt
  · rw [compare_lt_iff_lt.mpr lt, compare_lt_iff_lt.mpr (apart h h' lt)]
    rfl
  · have unit := two_zpow_pos e
    rw [compare_eq_iff_eq.mpr rfl]
    show compare m m' = _
    rcases lt_trichotomy m m' with lt | rfl | gt
    · rw [compare_lt_iff_lt.mpr lt,
        compare_lt_iff_lt.mpr (mul_lt_mul_of_pos_right (Nat.cast_lt.mpr lt) unit)]
    · rw [compare_eq_iff_eq.mpr rfl, compare_eq_iff_eq.mpr rfl]
    · rw [compare_gt_iff_gt.mpr gt,
        compare_gt_iff_gt.mpr (mul_lt_mul_of_pos_right (Nat.cast_lt.mpr gt) unit)]
  · rw [compare_gt_iff_gt.mpr gt, compare_gt_iff_gt.mpr (apart h' h gt)]
    rfl

/-- **Doubles compare as the numbers** they stand for. -/
theorem compare_eq (hx : Unsigned x) (hy : Unsigned y) :
    (parts x).compare (parts y) = some (compare (value x) (value y)) := by
  rcases hx with hx | @⟨m, e, pos, hx⟩ <;> rcases hy with hy | @⟨m', e', pos', hy⟩
  · rw [value_of_zero hx, value_of_zero hy, hx, hy, compare_eq_iff_eq.mpr rfl]
    rfl
  · have positive : (0 : ℚ) < m' * 2 ^ e' := mul_pos (Nat.cast_pos.mpr pos') (two_zpow_pos e')
    rw [value_of_zero hx, value_of_finite hy, hx, hy, compare_lt_iff_lt.mpr positive]
    rfl
  · have positive : (0 : ℚ) < m * 2 ^ e := mul_pos (Nat.cast_pos.mpr pos) (two_zpow_pos e)
    rw [value_of_finite hx, value_of_zero hy, hx, hy, compare_gt_iff_gt.mpr positive]
    rfl
  · rw [value_of_finite hx, value_of_finite hy, hx, hy,
      ← compare_parts (canonical_parts hx).1 (canonical_parts hy).1]
    rfl

theorem lt_iff_compare : x < y ↔ (parts x).compare (parts y) = some .lt := by
  show decide (_ = true) = true ↔ _
  rw [decide_eq_true_iff]
  exact beq_iff_eq

theorem le_iff_compare : x ≤ y ↔ ((parts x).compare (parts y)).any Ordering.isLE = true := by
  show decide (_ = true) = true ↔ _
  rw [decide_eq_true_iff]
  rfl

theorem le_iff_value_le (hx : Unsigned x) (hy : Unsigned y) : x ≤ y ↔ value x ≤ value y := by
  rw [le_iff_compare, compare_eq hx hy, Option.any_some, ← not_lt, ← compare_gt_iff_gt]
  cases compare (value x) (value y) <;> decide

theorem beq_iff_value_eq (hx : Unsigned x) (hy : Unsigned y) :
    (x == y) = true ↔ value x = value y := by
  show ((parts x).compare (parts y) == some .eq) = true ↔ _
  rw [compare_eq hx hy, beq_iff_eq, Option.some_inj, compare_eq_iff_eq]

/-- **Doubles that stand for the same number** have the same parts. -/
theorem parts_eq_of_value_eq (hx : Unsigned x) (hy : Unsigned y) (same : value x = value y) :
    parts x = parts y := by
  have equal := compare_eq hx hy
  rw [same, compare_eq_iff_eq.mpr rfl] at equal
  rcases hx with hx | @⟨m, e, pos, hx⟩ <;> rcases hy with hy | @⟨m', e', pos', hy⟩ <;>
    rw [hx, hy] at equal ⊢
  · cases equal
  · cases equal
  · have both : (compare e e').then (compare m m') = .eq := Option.some_inj.mp equal
    obtain ⟨he, hm⟩ := Ordering.then_eq_eq.mp both
    obtain rfl := compare_eq_iff_eq.mp he
    obtain rfl := compare_eq_iff_eq.mp hm
    rfl

/-! ## Finite doubles -/

theorem isFinite_eq (x : Float) : x.isFinite = (parts x).isFinite := rfl

theorem Unsigned.isFinite (h : Unsigned x) : x.isFinite = true := by
  rcases h with h | h <;> rw [isFinite_eq, h] <;> rfl

/-- **The parts of a negated double** are those of the double, with the other sign. -/
theorem parts_neg (x : Float) : parts (-x) = (parts x).neg := by
  show unpack Format.binary64 (pack Format.binary64 (parts x).neg) = _
  cases h : parts x with
  | notANumber => rfl
  | infinity s => exact unpack_packedInfinity (-s)
  | zero s => exact unpack_packedZero
  | finite s m e pos =>
    obtain ⟨canonical, small⟩ := canonical_parts h
    exact (unpack_pack (-s) pos canonical).trans (if_pos small)

theorem isFinite_neg (x : Float) : (-x).isFinite = x.isFinite := by
  rw [isFinite_eq, isFinite_eq, parts_neg]
  cases parts x <;> rfl

/-- Both zeros equal zero, and nothing else does. -/
theorem beq_zero_iff : (x == 0.0) = true ↔ ∃ s, parts x = .zero s := by
  show ((parts x).compare (.zero .positive) == some .eq) = true ↔ _
  rw [beq_iff_eq]
  cases parts x with
  | notANumber => simp [UnpackedFloat.compare]
  | infinity s => cases s <;> simp [UnpackedFloat.compare]
  | zero s => simp [UnpackedFloat.compare]
  | finite s m e pos => cases s <;> simp [UnpackedFloat.compare]

theorem neg_beq_zero (x : Float) : (-x == 0.0) = (x == 0.0) := by
  rw [Bool.eq_iff_iff, beq_zero_iff, beq_zero_iff, parts_neg]
  cases parts x with
  | zero s => exact iff_of_true ⟨-s, rfl⟩ ⟨s, rfl⟩
  | _ => simp [UnpackedFloat.neg]

theorem parts_zero : parts 0.0 = .zero .positive := rfl

theorem unsigned_zero : Unsigned 0.0 := .zero parts_zero

/-- **A finite double above zero** has no sign. -/
theorem unsigned_of_pos (finite : x.isFinite = true) (pos : 0.0 < x) : Unsigned x := by
  rw [lt_iff_compare, parts_zero] at pos
  rw [isFinite_eq] at finite
  cases h : parts x with
  | notANumber => rw [h] at finite; exact absurd finite (by decide)
  | infinity s => rw [h] at finite; exact absurd finite (by simp [UnpackedFloat.isFinite])
  | zero s => rw [h] at pos; exact absurd pos (by simp [UnpackedFloat.compare])
  | finite s m e hm =>
    cases s with
    | positive => exact .finite h
    | negative => rw [h] at pos; exact absurd pos (by simp [UnpackedFloat.compare])

/-- A rounded number is finite if it is below the largest double and half of its last place. -/
theorem IsNearest.isFinite_iff (h : IsNearest x z) : x.isFinite = true ↔ nearest z < 2 ^ 1024 := by
  rcases h with ⟨small, unsigned, -⟩ | ⟨big, infinite⟩
  · exact iff_of_true unsigned.isFinite small
  · refine iff_of_false ?_ (not_lt.mpr big)
    rw [isFinite_eq, infinite]
    exact Bool.false_ne_true

theorem IsNearest.unsigned (h : IsNearest x z) (finite : x.isFinite = true) : Unsigned x := by
  have small := h.isFinite_iff.mp finite
  rcases h with ⟨-, unsigned, -⟩ | ⟨big, -⟩
  · exact unsigned
  · exact absurd small (not_lt.mpr big)

/-- **A finite result is the rounded number.** -/
theorem IsNearest.value_eq (h : IsNearest x z) (finite : x.isFinite = true) :
    value x = nearest z := by
  have small := h.isFinite_iff.mp finite
  rcases h with ⟨-, -, same⟩ | ⟨big, -⟩
  · exact same
  · exact absurd small (not_lt.mpr big)

/-- A rounded number far below the largest double is finite. -/
theorem IsNearest.value_of_le_zpow {k : ℤ} (h : IsNearest x z) (hk : -1074 ≤ k) (far : k < 1024)
    (hz : 0 ≤ z) (hle : z ≤ 2 ^ k) : Unsigned x ∧ value x = nearest z ∧ nearest z ≤ 2 ^ k := by
  have le : nearest z ≤ 2 ^ k := nearest_le_zpow hk hz hle
  have finite : x.isFinite = true := by
    refine h.isFinite_iff.mpr (le.trans_lt ?_)
    calc (2 : ℚ) ^ k < 2 ^ (1024 : ℤ) := zpow_lt_zpow_right₀ one_lt_two far
      _ = 2 ^ 1024 := zpow_natCast 2 1024
  exact ⟨h.unsigned finite, h.value_eq finite, le⟩

theorem isFinite_unpack_pack_of_infinite {u : UnpackedFloat} (h : u.isFinite = false) :
    (unpack Format.binary64 (pack Format.binary64 u)).isFinite = false := by
  cases u with
  | notANumber => rfl
  | infinity s => cases s <;> rfl
  | zero s => exact absurd h (by simp [UnpackedFloat.isFinite])
  | finite s m e hm => exact absurd h (by simp [UnpackedFloat.isFinite])

/-- **A finite sum** has finite summands. -/
theorem isFinite_of_add (h : (x + y).isFinite = true) : x.isFinite = true ∧ y.isFinite = true := by
  by_contra other
  have infinite : (UnpackedFloat.add Format.binary64 (parts x) (parts y)).isFinite = false := by
    rw [isFinite_eq, isFinite_eq] at other
    revert other
    cases parts x with
    | infinity s =>
      cases parts y with
      | infinity s' => cases s <;> cases s' <;> decide
      | _ => simp [UnpackedFloat.isFinite, UnpackedFloat.add]
    | _ => cases parts y <;> simp [UnpackedFloat.isFinite, UnpackedFloat.add]
  exact Bool.false_ne_true ((isFinite_unpack_pack_of_infinite infinite).symm.trans h)

/-- **A finite product** has finite factors. -/
theorem isFinite_of_mul (h : (x * y).isFinite = true) : x.isFinite = true ∧ y.isFinite = true := by
  by_contra other
  have infinite : (UnpackedFloat.mul Format.binary64 (parts x) (parts y)).isFinite = false := by
    rw [isFinite_eq, isFinite_eq] at other
    revert other
    cases parts x <;> cases parts y <;> simp [UnpackedFloat.isFinite, UnpackedFloat.mul]
  exact Bool.false_ne_true ((isFinite_unpack_pack_of_infinite infinite).symm.trans h)

/-- **A finite quotient** has a finite dividend. -/
theorem isFinite_of_div (h : (x / y).isFinite = true) : x.isFinite = true := by
  by_contra other
  have infinite : (UnpackedFloat.div Format.binary64 (parts x) (parts y)).isFinite = false := by
    rw [isFinite_eq] at other
    revert other
    cases parts x <;> cases parts y <;> simp [UnpackedFloat.isFinite, UnpackedFloat.div]
  exact Bool.false_ne_true ((isFinite_unpack_pack_of_infinite infinite).symm.trans h)

/-! ## Counters -/

theorem bounds_toFloat (n : UInt64) : Unsigned n.toFloat ∧ value n.toFloat = nearest n.toNat ∧
    nearest n.toNat ≤ 2 ^ (64 : ℤ) := by
  have most : ((n.toNat : ℕ) : ℚ) ≤ 2 ^ (64 : ℤ) := by exact_mod_cast n.toNat_lt.le
  exact (isNearest_toFloat n).value_of_le_zpow (by norm_num) (by norm_num) (Nat.cast_nonneg _) most

theorem unsigned_toFloat (n : UInt64) : Unsigned n.toFloat :=
  (bounds_toFloat n).1

theorem value_toFloat (n : UInt64) : value n.toFloat = nearest n.toNat :=
  (bounds_toFloat n).2.1

/-- A counter with digits few enough is exact as a double. -/
theorem value_toFloat_of_lt {n : UInt64} (h : n.toNat < 2 ^ 53) : value n.toFloat = n.toNat := by
  rw [value_toFloat, nearest_natCast_of_lt h]

/-! ## Quotients -/

/-- **A quotient by one or more** is finite. -/
theorem unsigned_div (hx : Unsigned x) (hy : Unsigned y) (one : 1 ≤ value y) :
    Unsigned (x / y) ∧ value (x / y) = nearest (value x / value y) := by
  have quotient := isNearest_div hx hy (by linarith)
  have finite : (x / y).isFinite = true := by
    refine quotient.isFinite_iff.mpr (lt_of_le_of_lt ?_ (value_lt hx))
    calc nearest (value x / value y)
        ≤ nearest (value x) := nearest_mono (div_nonneg (value_nonneg hx) (value_nonneg hy))
          (div_le_self (value_nonneg hx) one)
      _ = value x := nearest_value hx
  exact ⟨quotient.unsigned finite, quotient.value_eq finite⟩

/-- A quotient by a counter. -/
theorem unsigned_div_toFloat (hx : Unsigned x) {n : UInt64} (some : n ≠ 0) :
    Unsigned (x / n.toFloat) ∧ value (x / n.toFloat) = nearest (value x / nearest n.toNat) := by
  have pos : 1 ≤ n.toNat := Nat.pos_of_ne_zero fun none => some (UInt64.toNat_inj.mp none)
  rw [← value_toFloat]
  refine unsigned_div hx (unsigned_toFloat n) ?_
  rw [value_toFloat]
  exact one_le_nearest (by exact_mod_cast pos)

theorem parts_thousand : parts 1000.0 = .finite .positive (1000 * 2 ^ 43) (-43) (by decide) := rfl

theorem unsigned_thousand : Unsigned 1000.0 := .finite parts_thousand

theorem value_thousand : value 1000.0 = 1000 := by
  rw [value_of_finite parts_thousand]
  norm_num

end CallMeter.Double
