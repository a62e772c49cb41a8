import CallMeter.Proofs.Double.Rounding
import Mathlib

/-!
# Doubles in parts

A finite double is a sign, a mantissa of up to fifty-three binary digits and the exponent of its
last place. The parts are stored in bits, and those of a number that is rounded to a double come
back from them; a number too large comes back as an infinity.

## Main definitions

* `Canonical`: the mantissas and exponents of doubles
* `parts`, `value`: the parts of a double and the number it stands for

## Main results

* `unpack_pack`: the parts come back from the bits
* `canonical_parts`: the parts of every double are canonical
-/

namespace CallMeter.Double

open Float.Model (Format UnpackedFloat)
open Float.Model.UnpackedFloat

/-- **Canonical** mantissa and exponent: the mantissa has fifty-three digits, or fewer at the
exponent of the last place of all. -/
structure Canonical (m : ℕ) (e : ℤ) : Prop where
  lt : m < 2 ^ 53
  le : -1074 ≤ e
  full : e = -1074 ∨ 2 ^ 52 ≤ m

/-! ## Bits -/

theorem toNat_implicit (m : BitVec 52) : (1#1 ++ m).toNat = 2 ^ 52 + m.toNat := by
  rw [BitVec.toNat_append, ← Nat.shiftLeft_add_eq_or_of_lt m.isLt]
  rfl

section

variable (s : Sign) {n : ℕ} {m : BitVec 52}

theorem unpack_packComponents_of_normal {b : ℕ} {e : BitVec 11} (top : b < 2047) (bottom : 0 < b)
    (he : e.toNat = b) (pos : 0 < n) (hm : 2 ^ 52 + m.toNat = n) :
    unpack Format.binary64 (packComponents Format.binary64 s e m) = .finite s n (b - 1075) pos := by
  subst he hm
  have finite : e ≠ -1#11 := by
    rintro rfl
    exact absurd top (by decide)
  have normal : e ≠ 0#11 := by
    rintro rfl
    exact absurd bottom (by decide)
  simp only [unpack, unpackExponent_packComponents, unpackMantissa_packComponents,
    unpackSign_packComponents, Sign.ofBitVec_toBitVec, if_neg finite, if_neg normal, toNat_implicit]
  rfl

theorem unpack_packComponents_of_subnormal (pos : 0 < n) (hm : m.toNat = n) :
    unpack Format.binary64 (packComponents Format.binary64 s 0#11 m) =
      .finite s n (-1074) pos := by
  subst hm
  have nonzero : m ≠ 0#52 := by
    rintro rfl
    exact absurd pos (by decide)
  have finite : (0#11 : BitVec 11) ≠ -1#11 := by decide
  simp only [unpack, unpackExponent_packComponents, unpackMantissa_packComponents,
    unpackSign_packComponents, Sign.ofBitVec_toBitVec, if_neg finite, dif_neg nonzero]
  rfl

end

theorem unpack_packedInfinity (s : Sign) :
    unpack Format.binary64 (packedInfinity Format.binary64 s) = .infinity s := by
  simp only [unpack, packedInfinity, unpackExponent_packComponents, unpackMantissa_packComponents,
    unpackSign_packComponents, Sign.ofBitVec_toBitVec]
  rfl

/-- **The parts come back from the bits**, unless the exponent is too large to store. -/
theorem unpack_pack (s : Sign) {m : ℕ} {e : ℤ} (pos : 0 < m) (h : Canonical m e) :
    unpack Format.binary64 (pack Format.binary64 (.finite s m e pos)) =
      if e ≤ 971 then .finite s m e pos else .infinity s := by
  have biased : (e + (Format.binary64.exponentBias : ℤ) +
      (Format.binary64.mantissaBitsWithoutImplicit : ℤ)).toNat = (e + 1075).toNat := by
    have bias : (Format.binary64.exponentBias : ℤ) = 1023 := rfl
    have width : (Format.binary64.mantissaBitsWithoutImplicit : ℤ) = 52 := rfl
    omega
  have places : Format.binary64.mantissaBits = 53 := rfl
  have lower := h.le
  simp only [pack, biased, places]
  by_cases small : e ≤ 971
  · rw [if_pos small, if_neg (by omega)]
    rcases Nat.lt_or_ge m (2 ^ 52) with low | high
    · have least : e = -1074 := h.full.resolve_right (by omega)
      have short := (Nat.log2_lt pos.ne').mpr low
      subst least
      rw [if_neg (by omega)]
      exact unpack_packComponents_of_subnormal s pos (Nat.mod_eq_of_lt low)
    · have long := (Nat.le_log2 pos.ne').mpr high
      have short := (Nat.log2_lt pos.ne').mpr h.lt
      have field : ((e + 1075).toNat : ℤ) - 1075 = e := by omega
      rw [if_pos (by omega)]
      refine (unpack_packComponents_of_normal s (b := (e + 1075).toNat) (by omega) (by omega)
        (Nat.mod_eq_of_lt (by omega)) pos ?_).trans (by rw [field])
      rw [BitVec.toNat_ofNat]
      have := h.lt
      omega
  · rw [if_neg small, if_pos (by omega)]
    exact unpack_packedInfinity s

theorem canonical_unpack {b : BitVec 64} {s : Sign} {m : ℕ} {e : ℤ} {pos : 0 < m}
    (h : unpack Format.binary64 b = .finite s m e pos) : Canonical m e ∧ e ≤ 971 := by
  have width : (@unpackMantissa Format.binary64 b).toNat < 2 ^ 52 := BitVec.isLt _
  have field : (@unpackExponent Format.binary64 b).toNat < 2 ^ 11 := BitVec.isLt _
  have bias : ((Format.binary64.exponentBias : ℤ) +
      (Format.binary64.mantissaBitsWithoutImplicit : ℤ)) = 1075 := rfl
  simp only [unpack, bias] at h
  split_ifs at h with top bits zero rest
  · cases h
    have least : ((@unpackExponent Format.binary64 b).toNat : ℤ) = 0 := by rw [zero]; rfl
    exact ⟨⟨by omega, by omega, by omega⟩, by omega⟩
  · have small : (@unpackExponent Format.binary64 b).toNat ≠ 2047 := fun e =>
      top (BitVec.eq_of_toNat_eq e)
    have large : (@unpackExponent Format.binary64 b).toNat ≠ 0 := fun e =>
      zero (BitVec.eq_of_toNat_eq e)
    simp only [UnpackedFloat.finite.injEq, toNat_implicit] at h
    obtain ⟨-, rfl, rfl⟩ := h
    exact ⟨⟨by omega, by omega, by omega⟩, by omega⟩

/-! ## Doubles -/

/-- The parts of a double. -/
def parts (x : Float) : UnpackedFloat :=
  x.toModel.unpack

/-- **The number** that a finite double stands for, and zero for all else. -/
def value (x : Float) : ℚ :=
  match parts x with
  | .finite s m e _ => s.apply m * 2 ^ e
  | _ => 0

/-- **The parts of a double are canonical.** -/
theorem canonical_parts {x : Float} {s : Sign} {m : ℕ} {e : ℤ} {pos : 0 < m}
    (h : parts x = .finite s m e pos) : Canonical m e ∧ e ≤ 971 :=
  canonical_unpack h

theorem parts_ofModel_pack (u : UnpackedFloat) :
    parts (.ofModel (.pack u)) = unpack Format.binary64 (pack Format.binary64 u) := rfl

/-- **A double without a sign**: zero or a positive number. -/
inductive Unsigned (x : Float) : Prop
  | zero (h : parts x = .zero .positive)
  | finite {m : ℕ} {e : ℤ} {pos : 0 < m} (h : parts x = .finite .positive m e pos)

end CallMeter.Double
