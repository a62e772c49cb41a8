import CallMeter.Text.Utf8
import Mathlib.Data.String.Basic

/-!
# Reading encoded text

The bytes of a text are cut into the characters of the text, with no ill-formed piece, so both
readings give the text back.

## Main results

* `piecesFrom_utf8EncodeChar`: the bytes of a character are one piece
* `decode?_encode`, `decodeLossy_encode`: both readings undo the encoding
-/

namespace CallMeter.Text.Utf8

variable {b : UInt8} {r : List UInt8} {p : Pending}

/-! ## Bytes one by one -/

theorem lead_ofNat {n : Nat} (h : n < 256) :
    lead (UInt8.ofNat n) =
      if n < 0x80 then .done (Char.ofNat n)
      else if n < 0xC2 then .bad
      else if n < 0xE0 then .more ⟨n - 0xC0, 1, 0x80, 0xBF⟩
      else if n < 0xF0 then
        .more ⟨n - 0xE0, 2, if n = 0xE0 then 0xA0 else 0x80, if n = 0xED then 0x9F else 0xBF⟩
      else if n < 0xF5 then
        .more ⟨n - 0xF0, 3, if n = 0xF0 then 0x90 else 0x80, if n = 0xF4 then 0x8F else 0xBF⟩
      else .bad := by
  simp only [lead, UInt8.toNat_ofNat_of_lt' h, beq_iff_eq]

theorem piecesFrom_lead (h : lead b = .more p) :
    piecesFrom none (b :: r) = piecesFrom (some p) r := by
  simp only [piecesFrom, h]

/-- A byte within the bounds of an open character goes on with it. -/
theorem piecesFrom_more {n : Nat} (h : n < 0x40) (low : p.low.toNat ≤ n + 0x80)
    (high : n + 0x80 ≤ p.high.toNat) (needed : 1 < p.needed) :
    piecesFrom (some p) (UInt8.ofNat (n + 0x80) :: r) =
      piecesFrom (some ⟨64 * p.bits + n, p.needed - 1, 0x80, 0xBF⟩) r := by
  have value : (UInt8.ofNat (n + 0x80)).toNat = n + 0x80 :=
    UInt8.toNat_ofNat_of_lt' (show n + 0x80 < 256 by omega)
  simp only [piecesFrom, UInt8.le_iff_toNat_le, value, low, high, decide_true, Bool.and_true,
    if_true, Nat.add_sub_cancel, if_neg (Nat.not_le.mpr needed)]

/-- The last byte of an open character ends it. -/
theorem piecesFrom_last {n : Nat} (h : n < 0x40) (low : p.low.toNat ≤ n + 0x80)
    (high : n + 0x80 ≤ p.high.toNat) (needed : p.needed = 1) :
    piecesFrom (some p) (UInt8.ofNat (n + 0x80) :: r) =
      some (Char.ofNat (64 * p.bits + n)) :: piecesFrom none r := by
  have value : (UInt8.ofNat (n + 0x80)).toNat = n + 0x80 :=
    UInt8.toNat_ofNat_of_lt' (show n + 0x80 < 256 by omega)
  simp only [piecesFrom, UInt8.le_iff_toNat_le, value, low, high, decide_true, Bool.and_true,
    if_true, Nat.add_sub_cancel, if_pos needed.le]

/-! ## Characters -/

/-- **The bytes of a character are one piece**: the character. -/
theorem piecesFrom_utf8EncodeChar (c : Char) (r : List UInt8) :
    piecesFrom none (String.utf8EncodeChar c ++ r) = some c :: piecesFrom none r := by
  obtain ⟨v, hv⟩ : ∃ v, c.val.toNat = v := ⟨_, rfl⟩
  have char : Char.ofNat v = c := by rw [← hv]; exact Char.ofNat_toNat c
  have valid : v < 0xD800 ∨ 0xDFFF < v ∧ v < 0x110000 := hv ▸ c.valid
  rw [String.utf8EncodeChar]
  simp only [hv]
  split_ifs with one two three
  · have first : lead (UInt8.ofNat v) = .done c := by
      rw [lead_ofNat (by omega), if_pos (by omega), char]
    simp only [List.cons_append, List.nil_append, piecesFrom, first]
  · have first : lead (UInt8.ofNat (v / 64 % 32 + 192)) = .more ⟨v / 64, 1, 0x80, 0xBF⟩ := by
      rw [lead_ofNat (by omega), if_neg (by omega), if_neg (by omega), if_pos (by omega)]
      rw [show v / 64 % 32 + 192 - 0xC0 = v / 64 by omega]
    simp only [List.cons_append, List.nil_append]
    rw [piecesFrom_lead first, piecesFrom_last (by omega) (by simp) (by simp; omega) rfl]
    rw [show 64 * (v / 64) + v % 64 = v by omega, char]
  · have first : lead (UInt8.ofNat (v / 4096 % 16 + 224)) =
        .more ⟨v / 4096, 2, if v / 4096 = 0 then 0xA0 else 0x80,
          if v / 4096 = 13 then 0x9F else 0xBF⟩ := by
      rw [lead_ofNat (by omega), if_neg (by omega), if_neg (by omega), if_neg (by omega),
        if_pos (by omega)]
      simp only [Lead.more.injEq, Pending.mk.injEq, true_and]
      exact ⟨by omega, if_congr (by omega) rfl rfl, if_congr (by omega) rfl rfl⟩
    simp only [List.cons_append, List.nil_append]
    rw [piecesFrom_lead first, piecesFrom_more (by omega) (by split_ifs <;> simp <;> omega)
      (by split_ifs <;> simp <;> omega) (by simp),
      piecesFrom_last (by omega) (by simp) (by simp; omega) rfl]
    rw [show 64 * (64 * (v / 4096) + v / 64 % 64) + v % 64 = v by omega, char]
  · have first : lead (UInt8.ofNat (v / 262144 % 8 + 240)) =
        .more ⟨v / 262144, 3, if v / 262144 = 0 then 0x90 else 0x80,
          if v / 262144 = 4 then 0x8F else 0xBF⟩ := by
      rw [lead_ofNat (by omega), if_neg (by omega), if_neg (by omega), if_neg (by omega),
        if_neg (by omega), if_pos (by omega)]
      simp only [Lead.more.injEq, Pending.mk.injEq, true_and]
      exact ⟨by omega, if_congr (by omega) rfl rfl, if_congr (by omega) rfl rfl⟩
    simp only [List.cons_append, List.nil_append]
    rw [piecesFrom_lead first, piecesFrom_more (by omega) (by split_ifs <;> simp <;> omega)
      (by split_ifs <;> simp <;> omega) (by simp),
      piecesFrom_more (by omega) (by simp) (by simp; omega) (by simp),
      piecesFrom_last (by omega) (by simp) (by simp; omega) rfl]
    rw [show 64 * (64 * (64 * (v / 262144) + v / 4096 % 64) + v / 64 % 64) + v % 64 = v by omega,
      char]

/-! ## Texts -/

/-- **The pieces of an encoded text** are its characters. -/
theorem pieces_encode (s : String) : pieces (encode s) = s.toList.map some := by
  rw [pieces, encode]
  induction s.toList with
  | nil => rfl
  | cons c cs ih => rw [List.flatMap_cons, piecesFrom_utf8EncodeChar, ih, List.map_cons]

/-- **The strict reading undoes the encoding.** -/
theorem decode?_encode (s : String) : decode? (encode s) = some s := by
  have all : (s.toList.map some).mapM id = some s.toList := by
    induction s.toList with
    | nil => rfl
    | cons c cs ih => rw [List.map_cons, List.mapM_cons, ih]; rfl
  rw [decode?, pieces_encode, all, Option.map_some, String.ofList_toList]

/-- **The lossy reading undoes the encoding**, and replaces nothing. -/
theorem decodeLossy_encode (s : String) : decodeLossy (encode s) = s := by
  rw [decodeLossy, pieces_encode, List.map_map]
  exact (congrArg String.ofList (List.map_id _)).trans (String.ofList_toList)

end CallMeter.Text.Utf8
