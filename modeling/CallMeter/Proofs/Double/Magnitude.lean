import CallMeter.Proofs.Decimal.Doubles
import CallMeter.Proofs.Double.Whole

/-!
# Doubles from zero to infinity

A sum of doubles without a sign has none either, but it may be infinite. Such doubles stand in the
order of their magnitudes, infinity above all numbers, and a magnitude belongs to one of them. What
is no number, and would compare with nothing, is not among them.

## Main definitions

* `UpToInfinity`: the doubles without a sign, and infinity
* `magnitude`: the number that such a double stands for, infinity above all numbers

## Main results

* `eq_of_parts_eq`: a double that is a number is its parts
* `lt_iff_magnitude_lt`, `le_iff_magnitude_le`: the order is that of the magnitudes
* `eq_of_magnitude_eq`: doubles with one magnitude are the same
-/

namespace CallMeter.Double

open Decimal (exponentField fraction isNegative)
open Float.Model (Format UnpackedFloat)
open Float.Model.UnpackedFloat

variable {x y : Float} {z : ℚ}

/-! ## Doubles and their parts -/

/-- Doubles are the same if the three fields of their bits are. -/
theorem eq_of_fields (sign : isNegative x = isNegative y)
    (exponent : exponentField x = exponentField y) (mantissa : fraction x = fraction y) :
    x = y := by
  rw [isNegative, isNegative, Bool.eq_iff_iff, beq_iff_eq, beq_iff_eq] at sign
  simp only [exponentField, fraction, Nat.shiftRight_eq_div_pow, Nat.one_shiftLeft] at *
  have bits : x.toBits = y.toBits := by
    have := x.toBits.toNat_lt
    have := y.toBits.toNat_lt
    apply UInt64.toNat_inj.mp
    omega
  cases x with | ofModel x
  cases y with | ofModel y
  cases x
  cases y
  simpa [Float.toBits] using bits

/-- The sign, the exponent and the mantissa that the bits of a number hold. -/
def fields : UnpackedFloat → Option (Sign × ℕ × ℕ)
  | .notANumber => none
  | .infinity s => some (s, 2047, 0)
  | .zero s => some (s, 0, 0)
  | .finite s m e _ => if m < 2 ^ 52 then some (s, 0, m) else some (s, (e + 1075).toNat, m - 2 ^ 52)

/-- **The fields come back from the parts**, but for what is no number. -/
theorem fields_parts (number : parts x ≠ .notANumber) :
    fields (parts x) =
      some (if isNegative x then .negative else .positive, exponentField x, fraction x) := by
  have width : (@unpackMantissa Format.binary64 x.toBits.toBitVec).toNat < 2 ^ 52 := BitVec.isLt _
  have bias : ((Format.binary64.exponentBias : ℤ) +
      (Format.binary64.mantissaBitsWithoutImplicit : ℤ)) = 1075 := rfl
  have unpacked : parts x = unpack Format.binary64 x.toBits.toBitVec := rfl
  rw [← Decimal.ofBitVec_unpackSign, ← Decimal.toNat_unpackExponent,
    ← Decimal.toNat_unpackMantissa]
  simp only [unpacked, unpack, bias] at number ⊢
  split_ifs at number ⊢ with top none bottom none
  · rw [fields, top, none]
    rfl
  · exact absurd rfl number
  · rw [fields, bottom, none]
    rfl
  · rw [fields, if_pos width, bottom]
    rfl
  · rw [fields, if_neg (by rw [toNat_implicit]; omega), toNat_implicit]
    simp

/-- **A double that is a number is its parts.** -/
theorem eq_of_parts_eq (number : parts x ≠ .notANumber) (h : parts x = parts y) : x = y := by
  have same := congrArg fields h
  rw [fields_parts number, fields_parts (h ▸ number), Option.some_inj, Prod.mk.injEq,
    Prod.mk.injEq] at same
  obtain ⟨sign, exponent, mantissa⟩ := same
  refine eq_of_fields ?_ exponent mantissa
  split_ifs at sign with hx hy hy
  · rw [hx, hy]
  · rw [Bool.eq_false_of_not_eq_true hx, Bool.eq_false_of_not_eq_true hy]

/-! ## Magnitudes -/

/-- **A double from zero to infinity**: it has no sign, but may be too large to be finite. -/
inductive UpToInfinity (x : Float) : Prop
  | finite (h : Unsigned x)
  | infinite (h : parts x = .infinity .positive)

theorem IsNearest.upToInfinity (h : IsNearest x z) : UpToInfinity x := by
  rcases h with ⟨-, unsigned, -⟩ | ⟨-, infinite⟩
  · exact .finite unsigned
  · exact .infinite infinite

/-- **The magnitude** of a double: infinity is above all numbers. -/
def magnitude (x : Float) : WithTop ℚ :=
  match parts x with
  | .infinity _ => ⊤
  | _ => value x

theorem magnitude_of_unsigned (h : Unsigned x) : magnitude x = value x := by
  rcases h with h | h <;> rw [magnitude, h]

theorem magnitude_of_infinite {s : Sign} (h : parts x = .infinity s) : magnitude x = ⊤ := by
  rw [magnitude, h]

/-- **Doubles compare as their magnitudes.** -/
theorem compare_eq_compare_magnitude (hx : UpToInfinity x) (hy : UpToInfinity y) :
    (parts x).compare (parts y) = some (compare (magnitude x) (magnitude y)) := by
  rcases hx with hx | hx <;> rcases hy with hy | hy
  · have same : compare (value x : WithTop ℚ) (value y) = compare (value x) (value y) := by
      rcases lt_trichotomy (value x) (value y) with lt | eq | gt
      · rw [compare_lt_iff_lt.mpr lt, compare_lt_iff_lt.mpr (WithTop.coe_lt_coe.mpr lt)]
      · rw [compare_eq_iff_eq.mpr eq, compare_eq_iff_eq.mpr (congrArg _ eq)]
      · rw [compare_gt_iff_gt.mpr gt, compare_gt_iff_gt.mpr (WithTop.coe_lt_coe.mpr gt)]
    rw [compare_eq hx hy, magnitude_of_unsigned hx, magnitude_of_unsigned hy, same]
  · rw [magnitude_of_unsigned hx, magnitude_of_infinite hy,
      compare_lt_iff_lt.mpr (WithTop.coe_lt_top _), hy]
    rcases hx with hx | hx <;> rw [hx] <;> rfl
  · rw [magnitude_of_infinite hx, magnitude_of_unsigned hy,
      compare_gt_iff_gt.mpr (WithTop.coe_lt_top _), hx]
    rcases hy with hy | hy <;> rw [hy] <;> rfl
  · rw [magnitude_of_infinite hx, magnitude_of_infinite hy, compare_eq_iff_eq.mpr rfl, hx, hy]
    rfl

theorem lt_iff_magnitude_lt (hx : UpToInfinity x) (hy : UpToInfinity y) :
    x < y ↔ magnitude x < magnitude y := by
  rw [lt_iff_compare, compare_eq_compare_magnitude hx hy, Option.some_inj, compare_lt_iff_lt]

theorem le_iff_magnitude_le (hx : UpToInfinity x) (hy : UpToInfinity y) :
    x ≤ y ↔ magnitude x ≤ magnitude y := by
  rw [le_iff_compare, compare_eq_compare_magnitude hx hy, Option.any_some, ← not_lt,
    ← compare_gt_iff_gt]
  cases compare (magnitude x) (magnitude y) <;> decide

/-- **Doubles with one magnitude are the same.** -/
theorem eq_of_magnitude_eq (hx : UpToInfinity x) (hy : UpToInfinity y)
    (same : magnitude x = magnitude y) : x = y := by
  rcases hx with hx | hx <;> rcases hy with hy | hy
  · rw [magnitude_of_unsigned hx, magnitude_of_unsigned hy, WithTop.coe_inj] at same
    refine eq_of_parts_eq ?_ (parts_eq_of_value_eq hx hy same)
    rcases hx with hx | hx <;> rw [hx] <;> nofun
  · rw [magnitude_of_unsigned hx, magnitude_of_infinite hy] at same
    exact absurd same (WithTop.coe_ne_top)
  · rw [magnitude_of_infinite hx, magnitude_of_unsigned hy] at same
    exact absurd same.symm (WithTop.coe_ne_top)
  · refine eq_of_parts_eq ?_ (hx.trans hy.symm)
    rw [hx]
    nofun

end CallMeter.Double
