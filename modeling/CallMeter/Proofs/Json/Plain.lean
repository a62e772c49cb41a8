import CallMeter.Proofs.Decimal.Digits
import CallMeter.Proofs.Json.ReadBack
import Mathlib.Data.List.TakeWhile
import Mathlib.Data.Nat.Init

/-!
# Plain values

Values whose numbers are all integers come back from their compact text as they were, as long as
they are not nested too deeply. Integers keep every digit; doubles may come back changed, or not
at all.

## Main definitions

* `Plain`: values with integers only, nested no deeper than a number of levels

## Main results

* `readNumber?_digits`, `readNumber?_minus_digits`: integers read back from their digits
* `wordScalar?_of_readNumber?`: a word that is read as a number is no literal name
* `parse?_compact_of_plain`: a plain value reads back from its compact text
-/

namespace CallMeter.Json

/-! ## Integers -/

section Integers

open Decimal (digits)

theorem all_isDigit_digits (n : Nat) : ∀ c ∈ digits n, c.isDigit = true :=
  fun _ => Decimal.isDigit_of_mem_digits

/-- Digits without a superfluous zero are a literal, with a minus in front or without. -/
theorem ofChars?_digits (n : Nat) :
    Numeral.ofChars? (digits n) = some ⟨false, digits n, [], none⟩ ∧
      Numeral.ofChars? ('-' :: digits n) = some ⟨true, digits n, [], none⟩ := by
  have whole : (digits n).takeWhile Char.isDigit = digits n :=
    List.takeWhile_eq_self_iff.mpr (all_isDigit_digits n)
  have rest : (digits n).dropWhile Char.isDigit = [] :=
    List.dropWhile_eq_nil_iff.mpr (all_isDigit_digits n)
  have plain : ((digits n).isEmpty ||
      (digits n).head? == some '0' && digits n != ['0']) = false := by
    rcases eq_or_ne n 0 with rfl | hn
    · decide
    · simp [Decimal.digits_ne_nil, Decimal.head?_digits hn]
  have unsigned : ∀ r, digits n ≠ '-' :: r := by
    intro r e
    exact absurd (all_isDigit_digits n '-' (e ▸ List.mem_cons_self)) (by decide)
  constructor
  · unfold Numeral.ofChars?
    split
    next negative unsigned' e =>
    split at e
    · next r hr => exact absurd hr (unsigned r)
    · obtain ⟨rfl, rfl⟩ := Prod.mk.inj e
      simp only [whole, rest, plain]
      rfl
  · simp only [Numeral.ofChars?, whole, rest, plain]
    rfl

theorem absorb_digits {n : Nat} (h : n < UInt64.size) : absorb 0 (digits n) = (n, 0) := by
  have value : Nat.ofDigitChars 10 (digits n) 0 = n := Decimal.value_digits n
  rw [absorb_of_lt _ 0 (value.symm ▸ h), value]

/-- **Natural numbers read back.** -/
theorem readNumber?_digits (n : UInt64) : readNumber? (digits n.toNat) = some (.natural n) := by
  rw [readNumber?, (ofChars?_digits _).1]
  simp [Numeral.number?, absorb_digits n.toNat_lt]

/-- **Negative integers read back.** -/
theorem readNumber?_minus_digits {m : UInt64} (pos : 0 < m) (le : m.toNat ≤ UInt64.size / 2) :
    readNumber? ('-' :: digits m.toNat) = some (.negative m) := by
  have held : (decide (0 < m.toNat) && decide (m.toNat ≤ UInt64.size / 2)) = true := by
    rw [Bool.and_eq_true, decide_eq_true_iff, decide_eq_true_iff]
    exact ⟨UInt64.lt_iff_toNat_lt.mp pos, le⟩
  rw [readNumber?, (ofChars?_digits _).2, Option.bind_eq_bind, Option.bind_some, Numeral.number?,
    absorb_digits m.toNat_lt]
  show (if (decide (0 < m.toNat) && decide (m.toNat ≤ UInt64.size / 2)) = true then
    some (Number.negative (UInt64.ofNat m.toNat)) else _) = _
  rw [if_pos held, UInt64.ofNat_toNat]

/-- A word that is read as a number is no literal name. -/
theorem wordScalar?_of_readNumber? {w : List Char} {n : Number} (h : readNumber? w = some n) :
    wordScalar? w = some (.number n) := by
  have other {name : String} (none : readNumber? name.toList = none) : String.ofList w ≠ name := by
    rintro rfl
    rw [String.toList_ofList, h] at none
    cases none
  unfold wordScalar?
  split
  · next e => exact absurd e (other rfl)
  · next e => exact absurd e (other rfl)
  · next e => exact absurd e (other rfl)
  · rw [h, Option.map_some]

/-- Integers: natural numbers, and negative ones that their type can hold. -/
def Number.IsInteger : Number → Prop
  | .natural _ => True
  | .negative m => 0 < m ∧ m.toNat ≤ UInt64.size / 2
  | .double _ => False

theorem wordScalar?_of_isInteger {n : Number} (h : n.IsInteger) :
    wordScalar? (writeNumber n) = some (.number n) := by
  cases n with
  | natural n => exact wordScalar?_of_readNumber? (readNumber?_digits n)
  | negative m => exact wordScalar?_of_readNumber? (readNumber?_minus_digits h.1 h.2)
  | double x => exact h.elim

end Integers

/-! ## Plain values -/

/-- **Plain values**: the numbers are integers, an object has each key once, and arrays and
objects stand inside each other at most `levels` deep. -/
inductive Plain : (levels : Nat) → Json → Prop
  | null {n : Nat} : Plain n .null
  | bool {n : Nat} (b : Bool) : Plain n (.bool b)
  | number {n : Nat} {x : Number} (h : x.IsInteger) : Plain n (.number x)
  | string {n : Nat} (s : String) : Plain n (.string s)
  | array {n : Nat} {items : List Json} (h : ∀ v ∈ items, Plain n v) : Plain (n + 1) (.array items)
  | object {n : Nat} {members : List (String × Json)} (once : (members.map Prod.fst).Nodup)
      (h : ∀ e ∈ members, Plain n e.2) : Plain (n + 1) (.object members)

section Plain

variable {room : Nat}

theorem rereadItems_eq {items : List Json} (h : ∀ v ∈ items, reread room v = some v) :
    rereadItems room items = some items := by
  induction items with
  | nil => rfl
  | cons v items ih =>
    obtain ⟨hv, hitems⟩ := List.forall_mem_cons.mp h
    rw [rereadItems, hv, Option.bind_some, ih hitems, Option.map_some]

theorem rereadMembers_eq {members : List (String × Json)}
    (h : ∀ e ∈ members, reread room e.2 = some e.2) :
    rereadMembers room members = some members := by
  induction members with
  | nil => rfl
  | cons e members ih =>
    obtain ⟨he, hmembers⟩ := List.forall_mem_cons.mp h
    rw [rereadMembers, he, Option.bind_some, ih hmembers, Option.map_some]

/-- A plain value does not change when it is read anew. -/
theorem Plain.reread_eq {v : Json} (h : Plain room v) : reread room v = some v := by
  induction h with
  | null | bool | string => rfl
  | number h => exact wordScalar?_of_isInteger h
  | array h ih => rw [reread, rereadItems_eq ih, Option.map_some]
  | object once h ih =>
    rw [reread, rereadMembers_eq ih, Option.map_some, Entries.ofList_of_nodup once]

/-- **A plain value reads back** from its compact text. -/
theorem parse?_compact_of_plain {v : Json} (h : Plain Reader.maxDepth v) :
    parse? v.compact = some v := by
  rw [parse?_compact, h.reread_eq]

end Plain

end CallMeter.Json
