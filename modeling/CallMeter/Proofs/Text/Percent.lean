import CallMeter.Proofs.Text.Utf8
import CallMeter.Text.Percent

/-!
# Escaped text

A text with every byte escaped consists of percent signs and hexadecimal digits. Nothing in it
separates segments, fields or names, or means a space, so it stays in one piece wherever it is
put, and decoding gives its bytes back.

## Main definitions

* `inEscape`: the characters of escapes

## Main results

* `mem_encode`: an escaped text has no other characters
* `decode_encode`: decoding undoes the escapes
* `formText_encode`: so does the reading of a form
-/

namespace CallMeter.Text.Percent

/-- The characters of escapes: the percent sign and hexadecimal digits. -/
def inEscape (c : Char) : Bool :=
  c == '%' || (hexValue? c.toNat).isSome

/-! ## Digits -/

theorem hexValue?_hexDigit {n : Nat} (h : n < 16) : hexValue? (hexDigit n).toNat = some n := by
  have all : ∀ i : Fin 16, hexValue? (hexDigit i).toNat = some i.val := by decide
  exact all ⟨n, h⟩

theorem inEscape_hexDigit {n : Nat} (h : n < 16) : inEscape (hexDigit n) = true := by
  rw [inEscape, hexValue?_hexDigit h]
  exact Bool.or_true _

/-- The characters of escapes take one byte each. -/
theorem toNat_lt_of_inEscape {c : Char} (h : inEscape c = true) : c.toNat < 0x80 := by
  rcases Bool.or_eq_true_iff.mp h with h | h
  · rw [beq_iff_eq.mp h]
    decide
  · by_contra large
    have none : hexValue? c.toNat = none := by
      rw [hexValue?, if_neg (by omega), if_neg (by omega), if_neg (by omega)]
    rw [none] at h
    cases h

/-! ## Escapes -/

/-- **An escaped text** has no characters but those of escapes. -/
theorem mem_encode {s : String} {c : Char} (h : c ∈ encode s) : inEscape c = true := by
  obtain ⟨b, -, hc⟩ := List.mem_flatMap.mp h
  have size := b.toNat_lt
  rw [encodeByte, List.mem_cons, List.mem_cons, List.mem_singleton] at hc
  rcases hc with rfl | rfl | rfl
  · rfl
  · exact inEscape_hexDigit (by omega)
  · exact inEscape_hexDigit (by omega)

theorem not_mem_encode {s : String} {c : Char} (h : inEscape c = false) : c ∉ encode s :=
  fun hc => Bool.false_ne_true (h.symm.trans (mem_encode hc))

/-- The bytes of characters that take one byte each. -/
theorem encode_ofList_of_ascii {cs : List Char} (h : ∀ c ∈ cs, c.toNat < 0x80) :
    Utf8.encode (String.ofList cs) = cs.map fun c => UInt8.ofNat c.toNat := by
  rw [Utf8.encode, String.toList_ofList, List.map_eq_flatMap]
  refine List.flatMap_congr fun c hc => ?_
  rw [String.utf8EncodeChar]
  exact if_pos (Nat.le_of_lt_succ (h c hc))

theorem decodeBytes_encodeByte (b : UInt8) (r : List UInt8) :
    decodeBytes ((encodeByte b).map (fun c => UInt8.ofNat c.toNat) ++ r) = b :: decodeBytes r := by
  have size := b.toNat_lt
  have digit {n : Nat} (h : n < 16) :
      hexValue? (UInt8.ofNat (hexDigit n).toNat).toNat = some n := by
    have small := toNat_lt_of_inEscape (inEscape_hexDigit h)
    rw [UInt8.toNat_ofNat_of_lt' (show _ < 256 by omega), hexValue?_hexDigit h]
  have high := digit (show b.toNat / 16 < 16 by omega)
  have low := digit (show b.toNat % 16 < 16 by omega)
  have sign : (UInt8.ofNat '%'.toNat == 0x25) = true := by decide
  have value : UInt8.ofNat (16 * (b.toNat / 16) + b.toNat % 16) = b := by
    rw [Nat.div_add_mod, UInt8.ofNat_toNat]
  simp only [encodeByte, List.map_cons, List.map_nil, List.cons_append, List.nil_append,
    decodeBytes, sign, if_true, high, low, value]

/-- **Decoding undoes the escapes.** -/
theorem decode_encode (s : String) : decode (encode s) = Utf8.encode s := by
  have ascii : ∀ c ∈ encode s, c.toNat < 0x80 := fun c hc => toNat_lt_of_inEscape (mem_encode hc)
  rw [decode, encode_ofList_of_ascii ascii, encode]
  induction Utf8.encode s with
  | nil => rfl
  | cons b bytes ih =>
    rw [List.flatMap_cons, List.map_append, decodeBytes_encodeByte, ih]

/-- **The reading of a form undoes the escapes**: no plus sign is among them. -/
theorem formText_encode (s : String) : formText (encode s) = s := by
  have plain : (encode s).map (fun c => if c == '+' then ' ' else c) = encode s := by
    refine (List.map_congr_left ?_).trans (List.map_id _)
    intro c hc
    have other : (c == '+') = false := by
      rw [beq_eq_false_iff_ne]
      rintro rfl
      exact not_mem_encode (by decide) hc
    rw [other]
    rfl
  rw [formText, plain, decode_encode, Utf8.decodeLossy_encode]

end CallMeter.Text.Percent
