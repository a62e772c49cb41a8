import CallMeter.Decimal.Reader
import CallMeter.Proofs.Decimal.Digits
import CallMeter.Text.Blank

/-!
# Whole numbers as text

A whole number is written as digits with an optional sign in front. It is read as the double
nearest to the digits, with that sign, whatever their number.

## Main definitions

* `WholeText`: an optional sign and one or more digits
* `WholeText.Within`: a whole number with white space around it

## Main results

* `readFloat?_chars`: the double that a whole number is read as
-/

namespace CallMeter.Decimal

/-- What may stand in front of the digits of a whole number. -/
inductive LeadingSign
  | absent
  | plus
  | minus
  deriving DecidableEq

/-- **A whole number as text**: an optional sign and one or more digits, zeros in front allowed. -/
structure WholeText where
  sign : LeadingSign
  digits : List Char
  nonempty : digits ≠ []
  all_isDigit : ∀ c ∈ digits, c.isDigit = true

namespace WholeText

variable (w : WholeText)

/-- The characters of a whole number. -/
def chars : List Char :=
  match w.sign with
  | .absent => w.digits
  | .plus => '+' :: w.digits
  | .minus => '-' :: w.digits

/-- **The number** that is written. -/
def number : ℤ :=
  match w.sign with
  | .minus => -(value w.digits : ℤ)
  | _ => value w.digits

/-- **A text is a whole number** with white space around it. -/
def Within (w : WholeText) (text : String) : Prop :=
  ∃ front back : List Char, (∀ c ∈ front, Text.isSpace c = true) ∧
    (∀ c ∈ back, Text.isSpace c = true) ∧ text.toList = front ++ w.chars ++ back

variable {w}

theorem number_of_minus (h : w.sign = .minus) : w.number = -(value w.digits : ℤ) := by
  rw [number, h]

theorem number_of_ne_minus (h : w.sign ≠ .minus) : w.number = value w.digits := by
  rw [number.eq_def]
  split
  · next e => exact absurd e h
  · rfl

theorem chars_ne_nil : w.chars ≠ [] := by
  rw [chars.eq_def]
  split
  · exact w.nonempty
  · exact List.cons_ne_nil _ _
  · exact List.cons_ne_nil _ _

/-- Digits and signs are no white space. -/
theorem isSpace_of_mem_chars {c : Char} (h : c ∈ w.chars) : Text.isSpace c = false := by
  have digit (h : c ∈ w.digits) : Text.isSpace c = false := by
    have bounds := (isDigit_iff c).mp (w.all_isDigit c h)
    have zero : '0'.toNat = 48 := rfl
    have nine : '9'.toNat = 57 := rfl
    simp [Text.isSpace]
    omega
  unfold chars at h
  split at h
  · exact digit h
  · rcases List.mem_cons.mp h with rfl | h
    · decide
    · exact digit h
  · rcases List.mem_cons.mp h with rfl | h
    · decide
    · exact digit h

theorem Within.trim_eq {text : String} (h : w.Within text) :
    Text.trim text = String.ofList w.chars := by
  obtain ⟨front, back, hf, hb, split⟩ := h
  rw [Text.trim, split, Text.trimChars_append hf (fun c => isSpace_of_mem_chars) hb]

/-- The number without a sign and without zeros in front. -/
def ofNat (n : ℕ) : WholeText where
  sign := .absent
  digits := Decimal.digits n
  nonempty := digits_ne_nil n
  all_isDigit _ := isDigit_of_mem_digits

theorem number_ofNat (n : ℕ) : (ofNat n).number = n :=
  congrArg Nat.cast (value_digits n)

theorem within_text (n : ℕ) : (ofNat n).Within (Decimal.text n) := by
  refine ⟨[], [], List.forall_mem_nil _, List.forall_mem_nil _, ?_⟩
  rw [Decimal.text, String.toList_ofList, List.nil_append, List.append_nil]
  rfl

end WholeText

/-! ## Reading -/

theorem toLower_of_isDigit {c : Char} (h : c.isDigit = true) : c.toLower = c := by
  have nine : c.toNat ≤ 57 := ((isDigit_iff c).mp h).2
  have small : ¬ ('A'.val ≤ c.val ∧ c.val ≤ 'Z'.val) := by
    rintro ⟨capital, -⟩
    have := UInt32.le_iff_toNat_le.mp capital
    have a : 'A'.val.toNat = 65 := rfl
    have : c.val.toNat = c.toNat := rfl
    omega
  exact dif_neg small

section Reading

variable {ds : List Char} (hne : ds ≠ []) (hd : ∀ c ∈ ds, c.isDigit = true)
include hne hd

theorem readMagnitude?_digits : readMagnitude? ds = some (ofDecimal (value ds) 0) := by
  have whole : ds.takeWhile Char.isDigit = ds := List.takeWhile_eq_self_iff.mpr hd
  have rest : ds.dropWhile Char.isDigit = [] := List.dropWhile_eq_nil_iff.mpr hd
  have some : ds.isEmpty = false := by simpa using hne
  simp [readMagnitude?, whole, rest, some]

/-- Digits are no name of infinity, nor of no number. -/
theorem readUnsigned?_digits : readUnsigned? ds = some (ofDecimal (value ds) 0) := by
  have lower : ds.map Char.toLower = ds :=
    (List.map_congr_left fun c hc => toLower_of_isDigit (hd c hc)).trans (List.map_id ds)
  have other {name : String} (h : ∃ c ∈ name.toList, c.isDigit = false) :
      String.ofList ds ≠ name := by
    rintro rfl
    obtain ⟨c, hc, no⟩ := h
    rw [String.toList_ofList] at hc
    exact Bool.false_ne_true (no.symm.trans (hd c hc))
  unfold readUnsigned?
  rw [lower]
  split
  · next e => exact absurd e (other ⟨'i', by decide, by decide⟩)
  · next e => exact absurd e (other ⟨'i', by decide, by decide⟩)
  · next e => exact absurd e (other ⟨'n', by decide, by decide⟩)
  · exact readMagnitude?_digits hne hd

end Reading

/-- **A whole number is read** as the double nearest to it, with its sign. -/
theorem readFloat?_chars (w : WholeText) :
    readFloat? (String.ofList w.chars) =
      let x := ofDecimal (value w.digits) 0
      some (if w.sign = .minus then -x else x) := by
  obtain ⟨sign, digits, hne, hd⟩ := w
  have read := readUnsigned?_digits hne hd
  cases sign with
  | absent =>
    simp only [readFloat?, WholeText.chars, String.toList_ofList]
    split
    · exact absurd (hd '-' List.mem_cons_self) (by decide)
    · exact absurd (hd '+' List.mem_cons_self) (by decide)
    · exact read
  | plus =>
    simp only [readFloat?, WholeText.chars, String.toList_ofList]
    exact read
  | minus =>
    simp only [readFloat?, WholeText.chars, String.toList_ofList]
    rw [read]
    rfl

end CallMeter.Decimal
