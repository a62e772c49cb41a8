import CallMeter.Text.Utf8
import Mathlib.Data.String.Basic

/-!
# Texts in the order of their bytes

Texts compare character by character, and characters by their numbers. Their bytes compare the same
way: the encoding of a larger character is not shorter, a longer one begins with a larger byte, and
those of one length hold the digits of the numbers. Neither order depends on a locale.

## Main results

* `utf8EncodeChar_append_lt`: characters decide the order of bytes, whatever comes after them
* `encode_lt_encode_iff`: texts are in the order of their bytes
-/

namespace CallMeter.Text.Utf8

variable {c d : Char} {s t : String}

/-! ## Characters -/

theorem ofNat_cons_lt_iff {m n : Nat} {r r' : List UInt8} (hm : m < 256) (hn : n < 256) :
    UInt8.ofNat m :: r < UInt8.ofNat n :: r' ↔ m < n ∨ m = n ∧ r < r' := by
  rw [List.cons_lt_cons_iff, UInt8.lt_iff_toNat_lt, ← UInt8.toNat_inj,
    UInt8.toNat_ofNat_of_lt' hm, UInt8.toNat_ofNat_of_lt' hn]

/-- **Characters decide the order of bytes**, whatever comes after them. -/
theorem utf8EncodeChar_append_lt (h : c < d) (r r' : List UInt8) :
    String.utf8EncodeChar c ++ r < String.utf8EncodeChar d ++ r' := by
  obtain ⟨v, hv⟩ : ∃ v, c.val.toNat = v := ⟨_, rfl⟩
  obtain ⟨w, hw⟩ : ∃ w, d.val.toNat = w := ⟨_, rfl⟩
  have less : v < w := by rw [← hv, ← hw]; exact h
  have few : w < 0x110000 := by
    rcases d.valid with small | ⟨-, large⟩
    · exact hw ▸ small.trans (by decide)
    · exact hw ▸ large
  have first : v / 262144 ≤ w / 262144 := Nat.div_le_div_right less.le
  rw [String.utf8EncodeChar, String.utf8EncodeChar]
  simp only [hv, hw]
  -- one case for each pair of lengths: the larger character has no shorter encoding, and where it
  -- has a longer one the first bytes differ
  split_ifs <;> first
    | omega
    | simp only [List.cons_append, List.nil_append]
      repeat rw [ofNat_cons_lt_iff (by omega) (by omega)]
      rcases first.lt_or_eq with lt | same <;> omega

/-! ## Texts -/

theorem flatMap_utf8EncodeChar_lt {cs ds : List Char} (h : cs < ds) :
    cs.flatMap String.utf8EncodeChar < ds.flatMap String.utf8EncodeChar := by
  induction cs generalizing ds with
  | nil =>
    cases ds with
    | nil => exact absurd h (List.not_lt_nil [])
    | cons d ds =>
      rw [List.flatMap_nil, List.flatMap_cons, String.utf8EncodeChar]
      split_ifs <;> exact List.nil_lt_cons _ _
  | cons c cs ih =>
    cases ds with
    | nil => exact absurd h (List.not_lt_nil _)
    | cons d ds =>
      rw [List.flatMap_cons, List.flatMap_cons]
      rcases List.cons_lt_cons_iff.mp h with less | ⟨rfl, less⟩
      · exact utf8EncodeChar_append_lt less _ _
      · exact List.append_left_lt (ih less)

/-- **Texts are in the order of their bytes.** -/
theorem encode_lt_encode_iff : encode s < encode t ↔ s < t := by
  have ordered {s t : String} (h : s < t) : encode s < encode t :=
    flatMap_utf8EncodeChar_lt (String.lt_iff_toList_lt.mp h)
  refine ⟨fun h => ?_, ordered⟩
  rcases lt_trichotomy s t with less | rfl | more
  · exact less
  · exact absurd h (List.lt_irrefl _)
  · exact absurd h (List.lt_asymm (ordered more))

end CallMeter.Text.Utf8
