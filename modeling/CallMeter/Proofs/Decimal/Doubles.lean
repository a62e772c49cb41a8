import CallMeter.Proofs.Decimal.Shortest
import CallMeter.Proofs.Double.Order

/-!
# Shortest decimals of doubles

The exact magnitude that decides the digits of a double is the number the double stands for. Its
rounding interval reaches half of the last place up and at least a quarter of it down, which is
wide enough for seventeen digits.

## Main definitions

* `RoundsTo`: a number in the rounding interval of a double
* `largest`: the largest double

## Main results

* `ofFloat_of_finite`, `ofFloat_of_zero`: the exact magnitude from the parts of a double
* `nearest_eq_floor`: the whole number nearest to a double
* `RoundsTo.nearest_eq`: what is in the rounding interval of a double is rounded to it
* `nearest_shortest`: the double nearest to its shortest decimal is the double itself
* `shortest_le_largest`, `le_shortest`: a shortest decimal is among the doubles
-/

namespace CallMeter.Decimal

open Double
open Float.Model (Format UnpackedFloat)
open Float.Model.UnpackedFloat

variable {x : Float}

/-! ## Bits and parts -/

theorem toNat_unpackMantissa (x : Float) :
    (@unpackMantissa Format.binary64 x.toBits.toBitVec).toNat = fraction x := by
  rw [unpackMantissa, BitVec.toNat_cast, BitVec.extractLsb_toNat]
  rfl

theorem toNat_unpackExponent (x : Float) :
    (@unpackExponent Format.binary64 x.toBits.toBitVec).toNat = exponentField x := by
  rw [unpackExponent, BitVec.toNat_cast, BitVec.extractLsb_toNat]
  rfl

theorem toNat_unpackSign (x : Float) :
    (@unpackSign Format.binary64 x.toBits.toBitVec).toNat = x.toBits.toNat >>> 63 := by
  rw [unpackSign, BitVec.toNat_cast, BitVec.extractLsb_toNat]
  have := x.toBits.toNat_lt
  show x.toBits.toNat >>> 63 % 2 = _
  rw [Nat.shiftRight_eq_div_pow]
  omega

/-- What the bits of a finite double say about its parts. -/
theorem bits_of_finite {s : Sign} {m : ℕ} {e : ℤ} {pos : 0 < m}
    (h : parts x = .finite s m e pos) :
    exponentField x = 0 ∧ m = fraction x ∧ e = -1074 ∨
      0 < exponentField x ∧ m = 2 ^ 52 + fraction x ∧ e = exponentField x - 1075 := by
  have bias : ((Format.binary64.exponentBias : ℤ) +
      (Format.binary64.mantissaBitsWithoutImplicit : ℤ)) = 1075 := rfl
  have unpacked : unpack Format.binary64 x.toBits.toBitVec = .finite s m e pos := h
  simp only [unpack, bias] at unpacked
  split_ifs at unpacked with top bits zero rest
  · cases unpacked
    have least : exponentField x = 0 := by
      rw [← toNat_unpackExponent, zero]
      rfl
    rw [toNat_unpackExponent, least]
    exact .inl ⟨rfl, toNat_unpackMantissa x, rfl⟩
  · have large : exponentField x ≠ 0 := by
      rw [← toNat_unpackExponent]
      exact fun e => zero (BitVec.eq_of_toNat_eq e)
    simp only [UnpackedFloat.finite.injEq, toNat_implicit, toNat_unpackMantissa,
      toNat_unpackExponent] at unpacked
    obtain ⟨-, rfl, rfl⟩ := unpacked
    exact .inr ⟨Nat.pos_of_ne_zero large, rfl, rfl⟩

/-- **The exact magnitude** of a finite double is in its parts. -/
theorem ofFloat_of_finite {s : Sign} {m : ℕ} {e : ℤ} {pos : 0 < m}
    (h : parts x = .finite s m e pos) : Dyadic.ofFloat x = ⟨m, e⟩ := by
  rw [Dyadic.ofFloat]
  rcases bits_of_finite h with ⟨least, rfl, rfl⟩ | ⟨more, rfl, rfl⟩
  · rw [if_pos (by rw [least]; rfl)]
  · rw [if_neg (by rw [beq_iff_eq]; omega)]
    rfl

theorem ofFloat_of_zero {s : Sign} (h : parts x = .zero s) : (Dyadic.ofFloat x).mantissa = 0 := by
  have unpacked : unpack Format.binary64 x.toBits.toBitVec = .zero s := h
  simp only [unpack] at unpacked
  split_ifs at unpacked with top bits zero rest
  have least : exponentField x = 0 := by
    rw [← toNat_unpackExponent, zero]
    rfl
  have none : fraction x = 0 := by
    rw [← toNat_unpackMantissa, rest]
    rfl
  rw [Dyadic.ofFloat, if_pos (by rw [least]; rfl), none]

/-- Numerator and denominator make up the magnitude. -/
theorem ratio_eq (d : Dyadic) : (d.ratio.1 : ℚ) / d.ratio.2 = d.mantissa * 2 ^ d.exponent := by
  obtain ⟨m, e⟩ := d
  have parts : e = e.toNat - (-e).toNat := by omega
  rw [Dyadic.ratio]
  dsimp only
  conv_rhs => rw [parts, zpow_sub₀ two_ne_zero, zpow_natCast, zpow_natCast, ← mul_div_assoc]
  rw [Nat.shiftLeft_eq, Nat.one_shiftLeft]
  push_cast
  rfl

/-- A quotient rounded with a half going up. -/
theorem roundDiv_up (num : ℕ) {den : ℕ} (pos : 0 < den) :
    roundDiv num den .up = ⌊(num / den + 1 / 2 : ℚ)⌋₊ := by
  have whole : roundDiv num den .up = (2 * num + den) / (2 * den) := by
    have small := Nat.mod_lt num pos
    have split : 2 * num + den = 2 * den * (num / den) + (2 * (num % den) + den) := by
      conv_lhs => rw [← Nat.div_add_mod num den]
      ring
    rw [split, Nat.mul_add_div (by omega)]
    have one : (2 * (num % den) + den) / (2 * den) = if 2 * (num % den) < den then 0 else 1 := by
      split_ifs with low
      · exact Nat.div_eq_of_lt (by omega)
      · exact Nat.div_eq_of_lt_le (by omega) (by omega)
    rw [one]
    simp only [roundDiv]
    split_ifs <;> rfl
  have shift : (num / den + 1 / 2 : ℚ) = ((2 * num + den : ℕ) : ℚ) / (2 * den : ℕ) := by
    have nonzero : (den : ℚ) ≠ 0 := Nat.cast_ne_zero.mpr pos.ne'
    push_cast
    field_simp
  rw [whole, shift, Nat.floor_div_eq_div]

/-- **The nearest whole number** of a double that is not negative. -/
theorem nearest_eq_floor (h : Unsigned x) : Decimal.nearest x = ⌊Double.value x + 1 / 2⌋₊ := by
  have exact :
      ((Dyadic.ofFloat x).mantissa : ℚ) * 2 ^ (Dyadic.ofFloat x).exponent = Double.value x := by
    rcases h with h | h
    · rw [ofFloat_of_zero h, value_of_zero h, Nat.cast_zero, zero_mul]
    · rw [ofFloat_of_finite h, value_of_finite h]
  have pos : 0 < (Dyadic.ofFloat x).ratio.2 := by
    rw [Dyadic.ratio, Nat.one_shiftLeft]
    exact Nat.two_pow_pos _
  exact (roundDiv_up (Dyadic.ofFloat x).ratio.1 pos).trans (by rw [ratio_eq, exact])

/-- The sign of a double is its first bit. -/
theorem ofBitVec_unpackSign (x : Float) :
    Sign.ofBitVec (@unpackSign Format.binary64 x.toBits.toBitVec) =
      if isNegative x then .negative else .positive := by
  have bit := toNat_unpackSign x
  rw [isNegative, ← bit, Sign.ofBitVec]
  have small : (@unpackSign Format.binary64 x.toBits.toBitVec).toNat < 2 := BitVec.isLt _
  rcases Nat.lt_or_ge (@unpackSign Format.binary64 x.toBits.toBitVec).toNat 1 with none | some
  · have zero : @unpackSign Format.binary64 x.toBits.toBitVec = 0#1 :=
      BitVec.eq_of_toNat_eq (Nat.lt_one_iff.mp none)
    rw [zero]
    rfl
  · have one : @unpackSign Format.binary64 x.toBits.toBitVec = 1#1 :=
      BitVec.eq_of_toNat_eq (le_antisymm (Nat.le_of_lt_succ small) some)
    rw [one]
    rfl

theorem sign_of_finite {s : Sign} {m : ℕ} {e : ℤ} {pos : 0 < m}
    (h : parts x = .finite s m e pos) : s = if isNegative x then .negative else .positive := by
  have unpacked : unpack Format.binary64 x.toBits.toBitVec = .finite s m e pos := h
  rw [← ofBitVec_unpackSign]
  simp only [unpack] at unpacked
  split_ifs at unpacked <;> cases unpacked <;> rfl

/-! ## The rounding interval -/

/-- How far down the numbers reach that round to a double, in last places: half of that below a
power of two, where doubles stand twice as close. -/
def lowerGap (m : ℕ) (e : ℤ) : ℚ :=
  if m = 2 ^ 52 ∧ -1074 < e then 1 / 4 else 1 / 2

/-- **A number in the rounding interval** of the double `m * 2 ^ e`, whose ends belong to it only
if the mantissa is even. -/
structure RoundsTo (m : ℕ) (e : ℤ) (z : ℚ) : Prop where
  low : (m - lowerGap m e) * 2 ^ e ≤ z
  high : z ≤ (m + 1 / 2) * 2 ^ e
  strict : m % 2 = 1 → (m - lowerGap m e) * 2 ^ e < z ∧ z < (m + 1 / 2) * 2 ^ e

theorem lowerGap_le (m : ℕ) (e : ℤ) : lowerGap m e ≤ 1 / 2 := by
  rw [lowerGap]
  split_ifs <;> norm_num

section RoundsTo

variable {m : ℕ} {e : ℤ} {z : ℚ} (h : RoundsTo m e z)
include h

theorem RoundsTo.half_le : (m - 1 / 2) * 2 ^ e ≤ z := by
  refine le_trans ?_ h.low
  exact mul_le_mul_of_nonneg_right (by linarith [lowerGap_le m e]) (two_zpow_pos e).le

theorem RoundsTo.pos (pos : 0 < m) : 0 < z := by
  have least : (1 : ℚ) ≤ m := by exact_mod_cast pos
  refine lt_of_lt_of_le (mul_pos ?_ (two_zpow_pos e)) h.half_le
  linarith

/-- Below a power of two there is one digit more behind. -/
theorem RoundsTo.nearest_of_lt (edge : m = 2 ^ 52) (above : -1074 < e) (below : z < m * 2 ^ e) :
    Double.nearest z = m * 2 ^ e := by
  subst edge
  have unit := two_zpow_pos e
  have low := h.low
  rw [lowerGap, if_pos ⟨rfl, above⟩] at low
  have half : (2 : ℚ) ^ e = 2 * 2 ^ (e - 1) := by
    rw [← zpow_one_add₀ two_ne_zero]
    congr 1
    omega
  have place : lastPlace z = e - 1 := by
    have first : (2 : ℚ) ^ (51 + e) ≤ z := by
      refine le_trans ?_ low
      rw [zpow_add₀ two_ne_zero]
      exact mul_le_mul_of_nonneg_right (by norm_num) unit.le
    have last : z < 2 ^ (52 + e) := by
      rw [zpow_add₀ two_ne_zero]
      exact_mod_cast below
    have := le_log first
    have := log_lt (h.pos (by decide)) last
    rw [lastPlace]
    omega
  have whole : halfEven (z / 2 ^ (e - 1)) = 2 ^ 53 := by
    have smaller := two_zpow_pos (e - 1)
    refine halfEven_eq ?_ ?_ fun odd => absurd odd (by decide)
    · rw [le_div_iff₀ smaller]
      push_cast at low ⊢
      linarith
    · rw [div_le_iff₀ smaller]
      push_cast at below ⊢
      linarith
  rw [Double.nearest, place, whole, half]
  push_cast
  ring

/-- Anywhere else the last place of the double is that of the number. -/
theorem RoundsTo.lastPlace_eq (canonical : Canonical m e) (pos : 0 < m)
    (other : ¬ ((m = 2 ^ 52 ∧ -1074 < e) ∧ z < m * 2 ^ e)) : lastPlace z = e := by
  have unit := two_zpow_pos e
  have upper : Int.log 2 z < 53 + e := by
    have digits : (m : ℚ) + 1 ≤ 2 ^ (53 : ℤ) := by exact_mod_cast canonical.lt
    refine log_lt (h.pos pos) (h.high.trans_lt ?_)
    rw [zpow_add₀ two_ne_zero]
    exact mul_lt_mul_of_pos_right (by linarith) unit
  rcases canonical.le.eq_or_lt with rfl | above
  · exact max_eq_right (by omega)
  have first : (2 : ℚ) ^ (52 + e) ≤ z := by
    rw [zpow_add₀ two_ne_zero]
    rcases (canonical.full.resolve_left (by omega)).eq_or_lt with rfl | more
    · exact_mod_cast not_lt.mp (not_and.mp other ⟨rfl, above⟩)
    · refine le_trans (mul_le_mul_of_nonneg_right ?_ unit.le) h.half_le
      have larger : (2 : ℚ) ^ (52 : ℤ) + 1 ≤ m := by exact_mod_cast more
      linarith
  have := le_log first
  rw [lastPlace]
  omega

/-- **What is in the rounding interval is rounded to the double.** -/
theorem RoundsTo.nearest_eq (canonical : Canonical m e) (pos : 0 < m) :
    Double.nearest z = m * 2 ^ e := by
  by_cases under : (m = 2 ^ 52 ∧ -1074 < e) ∧ z < m * 2 ^ e
  · exact h.nearest_of_lt under.1.1 under.1.2 under.2
  · have unit := two_zpow_pos e
    have whole : halfEven (z / 2 ^ e) = m := by
      refine halfEven_eq ?_ ?_ fun odd => ?_
      · rw [le_div_iff₀ unit]
        exact_mod_cast h.half_le
      · rw [div_le_iff₀ unit]
        exact_mod_cast h.high
      · obtain ⟨low, high⟩ := h.strict (by omega)
        rw [lt_div_iff₀ unit, div_lt_iff₀ unit]
        refine ⟨lt_of_le_of_lt ?_ low, by exact_mod_cast high⟩
        exact mul_le_mul_of_nonneg_right (by push_cast; linarith [lowerGap_le m e]) unit.le
    rw [Double.nearest, h.lastPlace_eq canonical pos under, whole, Int.cast_natCast]

end RoundsTo

theorem fraction_lt (x : Float) : fraction x < 2 ^ 52 :=
  Nat.mod_lt _ (by decide)

section Interval

variable {s : Sign} {m : ℕ} {e : ℤ} {pos : 0 < m}

/-- A shift by an exponent with either sign. -/
theorem shift_div_shift (e : ℤ) :
    ((1 <<< (e - 2).toNat : ℕ) : ℚ) / (1 <<< (2 - e).toNat : ℕ) = 2 ^ e / 4 := by
  have split : e = ((e - 2).toNat : ℤ) - ((2 - e).toNat : ℤ) + 2 := by omega
  conv_rhs => rw [split, zpow_add₀ two_ne_zero, zpow_sub₀ two_ne_zero, zpow_natCast, zpow_natCast]
  rw [Nat.one_shiftLeft, Nat.one_shiftLeft]
  push_cast
  ring

/-- **The rounding interval of a double**: half of the last place up, and as much down, but half
of that below a power of two. The ends belong to it if the mantissa is even. -/
theorem neighbourhood_spec (h : parts x = .finite s m e pos) :
    (Neighbourhood.ofFloat x).Proper ∧ (Neighbourhood.ofFloat x).value = m * 2 ^ e ∧
      ((Neighbourhood.ofFloat x).low : ℚ) / (Neighbourhood.ofFloat x).den =
        (m - lowerGap m e) * 2 ^ e ∧
      ((Neighbourhood.ofFloat x).high : ℚ) / (Neighbourhood.ofFloat x).den = (m + 1 / 2) * 2 ^ e ∧
      (Neighbourhood.ofFloat x).closed = (m % 2 == 0) := by
  obtain ⟨u, hu⟩ : ∃ u, 1 <<< (e - 2).toNat = u := ⟨_, rfl⟩
  obtain ⟨d, hd⟩ : ∃ d, 1 <<< (2 - e).toNat = d := ⟨_, rfl⟩
  have unit : (u : ℚ) / d = 2 ^ e / 4 := by
    rw [← hu, ← hd]
    exact shift_div_shift e
  have hu' : 0 < u := by rw [← hu, Nat.one_shiftLeft]; positivity
  have hd' : 0 < d := by rw [← hd, Nat.one_shiftLeft]; positivity
  obtain ⟨g, hg, some, less, quarters⟩ : ∃ g,
      (if fraction x == 0 && decide (1 < exponentField x) then 1 else 2) = g ∧ 0 < g ∧ g < 4 * m ∧
        (g : ℚ) / 4 = lowerGap m e := by
    have bits := bits_of_finite h
    have few := fraction_lt x
    rw [lowerGap]
    split_ifs with edge power power
    · exact ⟨1, rfl, one_pos, by omega, by norm_num⟩
    · rw [Bool.and_eq_true, beq_iff_eq, decide_eq_true_iff] at edge
      omega
    · rw [Bool.and_eq_true, beq_iff_eq, decide_eq_true_iff] at edge
      omega
    · exact ⟨2, rfl, two_pos, by omega, by norm_num⟩
  have shape : Neighbourhood.ofFloat x =
      ⟨(4 * m - g) * u, 4 * m * u, (4 * m + 2) * u, d, m % 2 == 0⟩ := by
    simp only [Neighbourhood.ofFloat, ofFloat_of_finite h, hu, hd, hg]
  have scaled (n : ℕ) : ((n * u : ℕ) : ℚ) / d = n / 4 * 2 ^ e := by
    rw [Nat.cast_mul, mul_div_assoc, unit]
    ring
  rw [shape]
  refine ⟨⟨hd', by positivity, ?_, ?_⟩, ?_, ?_, ?_, rfl⟩
  · exact Nat.mul_lt_mul_of_pos_right (by omega) hu'
  · exact Nat.mul_lt_mul_of_pos_right (by omega) hu'
  · rw [Neighbourhood.value, scaled]
    push_cast
    ring
  · rw [scaled, Nat.cast_sub less.le, ← quarters]
    push_cast
    ring
  · rw [scaled]
    push_cast
    ring

/-- **The shortest decimal** of a double has seventeen digits at most and rounds to it. -/
theorem shortest_spec (h : parts x = .finite s m e pos) (tie : Tie) :
    0 < (shortest tie x).coefficient ∧ (shortest tie x).coefficient ≤ 10 ^ 17 ∧
      RoundsTo m e (shortest tie x).toRat := by
  obtain ⟨proper, middle, low, high, ends⟩ := neighbourhood_spec h
  have unit := two_zpow_pos e
  have digits : (m : ℚ) < 2 ^ 53 := by exact_mod_cast (canonical_parts h).1.lt
  have fine : (10 : ℚ) ^ ((Neighbourhood.ofFloat x).leading - 16) <
      (((Neighbourhood.ofFloat x).high : ℚ) - (Neighbourhood.ofFloat x).low) /
        (Neighbourhood.ofFloat x).den := by
    have first := (Neighbourhood.leading_spec proper).1
    rw [middle] at first
    have spacing : (m : ℚ) / 10 ^ 16 < 1 / 2 + lowerGap m e := by
      rw [lowerGap]
      split_ifs with power
      · rw [power.1]
        norm_num
      · rw [div_lt_iff₀ (by norm_num)]
        norm_num at digits ⊢
        linarith
    calc (10 : ℚ) ^ ((Neighbourhood.ofFloat x).leading - 16)
        = 10 ^ (Neighbourhood.ofFloat x).leading / 10 ^ 16 := by
          rw [zpow_sub₀ (by norm_num)]
          norm_num
      _ ≤ m * 2 ^ e / 10 ^ 16 := div_le_div_of_nonneg_right first (by norm_num)
      _ = m / 10 ^ 16 * 2 ^ e := by ring
      _ < (1 / 2 + lowerGap m e) * 2 ^ e := mul_lt_mul_of_pos_right spacing unit
      _ = _ := by
          rw [sub_div, high, low]
          ring
  obtain ⟨d, hd, inside, least, most⟩ := Neighbourhood.search_spec proper tie fine
  have found : shortest tie x = d := by
    rw [shortest, hd, Option.getD_some]
  rw [found, Scientific.toRat]
  refine ⟨least, most, ?_, ?_, ?_⟩
  · exact low.symm.trans_le (Neighbourhood.holds_bounds proper inside).1
  · exact (Neighbourhood.holds_bounds proper inside).2.trans_eq high
  · intro odd
    have strict := Neighbourhood.holds_strict proper (ends.trans (by rw [odd]; rfl)) inside
    rwa [low, high] at strict

/-- **The double nearest to its shortest decimal** is the double itself. -/
theorem nearest_shortest (h : parts x = .finite s m e pos) (tie : Tie) :
    Double.nearest (shortest tie x).toRat = m * 2 ^ e :=
  (shortest_spec h tie).2.2.nearest_eq (canonical_parts h).1 pos

/-- Doubles of one magnitude have the same shortest decimal. -/
theorem shortest_congr {y : Float} {s' : Sign} {pos' : 0 < m} (h : parts x = .finite s m e pos)
    (h' : parts y = .finite s' m e pos') (tie : Tie) : shortest tie x = shortest tie y := by
  have fractions : fraction x = fraction y ∧ exponentField x = exponentField y := by
    have := bits_of_finite h
    have := bits_of_finite h'
    have := fraction_lt x
    have := fraction_lt y
    omega
  have same : Neighbourhood.ofFloat x = Neighbourhood.ofFloat y := by
    simp only [Neighbourhood.ofFloat, ofFloat_of_finite h, ofFloat_of_finite h', fractions.1,
      fractions.2]
  rw [shortest, shortest, same]

/-- **The largest double.** -/
def largest : ℕ := 9007199254740991 * 2 ^ 971

/-- **The shortest decimal of a double** is not above the largest double. -/
theorem shortest_le_largest (h : parts x = .finite s m e pos) :
    (shortest .toEven x).toRat ≤ largest := by
  obtain ⟨canonical, top⟩ := canonical_parts h
  by_cases last : m = 2 ^ 53 - 1 ∧ e = 971
  · -- the interval of the largest double reaches beyond it, but its shortest decimal does not
    obtain ⟨rfl, rfl⟩ := last
    have bits : parts (.ofBits 0x7FEFFFFFFFFFFFFF) =
        .finite .positive (2 ^ 53 - 1) 971 (by decide) := rfl
    have digits : (shortest .toEven (.ofBits 0x7FEFFFFFFFFFFFFF)).coefficient = 17976931348623157 ∧
        (shortest .toEven (.ofBits 0x7FEFFFFFFFFFFFFF)).exponent = (292 : ℕ) := by decide +kernel
    have below : 17976931348623157 * 10 ^ 292 ≤ largest := by decide +kernel
    rw [shortest_congr h bits, Scientific.toRat, digits.1, digits.2, zpow_natCast]
    exact_mod_cast below
  · refine (shortest_spec h .toEven).2.2.high.trans ?_
    have number : (largest : ℚ) = 9007199254740991 * 2 ^ (971 : ℤ) := by
      rw [largest, Nat.cast_mul, Nat.cast_pow, Nat.cast_ofNat, Nat.cast_ofNat]
      exact congrArg _ (zpow_natCast 2 971).symm
    have digits := canonical.lt
    rw [number]
    rcases top.lt_or_eq with lower | rfl
    · have unit : (2 : ℚ) ^ e ≤ 2 ^ (970 : ℤ) := zpow_le_zpow_right₀ one_le_two (by omega)
      have most : (m : ℚ) ≤ 9007199254740991 := by exact_mod_cast (by omega : m ≤ 9007199254740991)
      have double : (2 : ℚ) ^ (971 : ℤ) = 2 * 2 ^ (970 : ℤ) := zpow_one_add₀ two_ne_zero 970
      have scaled := mul_le_mul (by linarith : (m : ℚ) + 1 / 2 ≤ 2 * 9007199254740991) unit
        (two_zpow_pos e).le (by norm_num)
      rw [double]
      linarith
    · have most : (m : ℚ) ≤ 9007199254740990 := by exact_mod_cast (by omega : m ≤ 9007199254740990)
      exact mul_le_mul_of_nonneg_right (by linarith) (two_zpow_pos _).le

/-- **Nor is it below the least one.** -/
theorem le_shortest (h : parts x = .finite s m e pos) :
    2 ^ (-1074 : ℤ) ≤ (shortest .toEven x).toRat := by
  obtain ⟨canonical, -⟩ := canonical_parts h
  by_cases first : m = 1 ∧ e = -1074
  · obtain ⟨rfl, rfl⟩ := first
    have bits : parts (.ofBits 1) = .finite .positive 1 (-1074) (by decide) := rfl
    have digits : (shortest .toEven (.ofBits 1)).coefficient = 5 ∧
        (shortest .toEven (.ofBits 1)).exponent = -(324 : ℕ) := by decide +kernel
    have above : 10 ^ 324 ≤ 5 * 2 ^ 1074 := by decide +kernel
    have least : (2 : ℚ) ^ (-1074 : ℤ) = 1 / 2 ^ 1074 := by
      rw [show (-1074 : ℤ) = -(1074 : ℕ) from rfl, zpow_neg, zpow_natCast, one_div]
    rw [shortest_congr h bits, Scientific.toRat, digits.1, digits.2, least, zpow_neg, zpow_natCast,
      ← div_eq_mul_inv, div_le_div_iff₀ (by positivity) (by positivity), one_mul]
    exact_mod_cast above
  · refine le_trans ?_ (shortest_spec h .toEven).2.2.half_le
    have low := canonical.le
    have more : 2 ≤ m := by
      rcases canonical.full with least | full
      · omega
      · omega
    have digits : (2 : ℚ) ≤ m := by exact_mod_cast more
    calc (2 : ℚ) ^ (-1074 : ℤ) ≤ 2 ^ e := zpow_le_zpow_right₀ one_le_two low
      _ = 1 * 2 ^ e := (one_mul _).symm
      _ ≤ (m - 1 / 2) * 2 ^ e := mul_le_mul_of_nonneg_right (by linarith) (two_zpow_pos e).le

end Interval

end CallMeter.Decimal
