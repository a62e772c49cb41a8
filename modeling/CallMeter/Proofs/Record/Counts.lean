import CallMeter.Proofs.Decimal.WholeNumbers
import CallMeter.Proofs.Double.Whole
import CallMeter.Record

/-!
# Counters of a record

A counter is read through a double, from an integer or from its digits. So it is the number that
was given if a double can hold it, and else the nearest number that one can hold.

## Main definitions

* `Json.HoldsWhole`: a value that gives a whole number
* `CallRecord.counts`: the counters of a record

## Main results

* `Json.HoldsWhole.toNat_asCount`: a whole number is counted as the nearest one of a double
* `CallRecord.counts_rounded`: the counter that a whole number is read as
-/

namespace CallMeter

/-! ## Counters -/

namespace Json

open Decimal (WholeText)
open Double

/-- **A value gives a whole number** as an integer, or as a text of its digits with white space
around them. -/
inductive HoldsWhole : Json → ℕ → Prop
  | integer (n : UInt64) : HoldsWhole (.number (.natural n)) n.toNat
  | text {w : WholeText} {s : String} {n : ℕ} (within : w.Within s) (number : w.number = n) :
      HoldsWhole (.string s) n

variable {v : Json} {x : Float} {n : ℕ}

/-- The count of a double is its whole part, or the largest word. -/
theorem toNat_asCount (h : asDouble? (some v) = some x) (hx : Unsigned x) :
    (asCount (some v)).toNat = min ⌊value x⌋₊ (UInt64.size - 1) := by
  rw [asCount, h]
  dsimp only
  rw [hx.isFinite, Bool.true_and]
  split_ifs with pos
  · exact toNat_toUInt64 hx
  · rw [decide_eq_true_iff, lt_iff_value_lt unsigned_zero hx, value_of_zero parts_zero] at pos
    have zero : value x = 0 := le_antisymm (not_lt.mp pos) (value_nonneg hx)
    rw [zero, Nat.floor_zero]
    rfl

/-- A double with a sign in front counts nothing. -/
theorem toNat_asCount_neg (h : asDouble? (some v) = some (-x)) (hx : Unsigned x) :
    (asCount (some v)).toNat = 0 := by
  rw [asCount, h]
  dsimp only
  rw [decide_eq_false (not_zero_lt_neg hx), Bool.and_false]
  rfl

/-- **A whole number is counted** as the nearest one that a double can hold. -/
theorem HoldsWhole.toNat_asCount (h : v.HoldsWhole n) (small : n < UInt64.size) :
    (asCount (some v)).toNat = min ⌊nearest n⌋₊ (UInt64.size - 1) := by
  cases h with
  | integer n =>
    rw [Json.toNat_asCount rfl (unsigned_toFloat n), value_toFloat]
  | @text w s n within number =>
    have rounded := isNearest_ofDecimal (Decimal.value w.digits)
    have read : asDouble? (some (.string s)) = some (if w.sign = .minus
        then -Decimal.ofDecimal (Decimal.value w.digits) 0
        else Decimal.ofDecimal (Decimal.value w.digits) 0) := by
      rw [asDouble?, within.trim_eq, Decimal.readFloat?_chars w]
    have digits : Decimal.value w.digits = n := by
      by_cases minus : w.sign = .minus
      · have := w.number_of_minus minus
        omega
      · exact Nat.cast_injective ((w.number_of_ne_minus minus).symm.trans number)
    rw [digits] at rounded read
    have finite : (Decimal.ofDecimal n 0).isFinite = true := by
      rw [rounded.isFinite_iff, nearest_lt_iff (Nat.cast_nonneg n), Nat.cast_lt]
      exact small.trans_le Double.overflow_bounds.1
    have unsigned := rounded.unsigned finite
    split_ifs at read with minus
    · have zero : n = 0 := by
        have := w.number_of_minus minus
        omega
      rw [toNat_asCount_neg read unsigned, zero, Nat.cast_zero, nearest_zero, Nat.floor_zero]
      rfl
    · rw [Json.toNat_asCount read unsigned, rounded.value_eq finite]

end Json

namespace CallRecord

/-- **The counters of a record**, with the members that they are read from. -/
def counts : List (String × (CallRecord → UInt64)) :=
  [("turnCount", turns), ("lastLatencyMs", latencyMs), ("approxInputTokens", inputTokens),
    ("approxOutputTokens", outputTokens)]

theorem count_ofMembers {count : String × (CallRecord → UInt64)} (h : count ∈ counts)
    (members : List (String × Json)) :
    count.2 (ofMembers members) = Json.asCount (Entries.get? count.1 members) := by
  simp only [counts, List.mem_cons, List.not_mem_nil, or_false] at h
  rcases h with rfl | rfl | rfl | rfl <;> rfl

/-- **A counter is the whole number that was given**, rounded to one that a double can hold: it is
exact for numbers of at most fifty-three binary digits, zeros at the end aside, for the largest
word, and for no others. -/
theorem counts_rounded {members : List (String × Json)} {count : String × (CallRecord → UInt64)}
    (h : count ∈ counts) {v : Json} (member : Entries.get? count.1 members = some v) {n : ℕ}
    (holds : v.HoldsWhole n) (small : n < UInt64.size) :
    ∃ r, ofItem? (.object members) = some r ∧
      (count.2 r).toNat = min ⌊Double.nearest n⌋₊ (UInt64.size - 1) ∧
      ((count.2 r).toNat = n ↔
        (∃ m k : ℕ, m < 2 ^ 53 ∧ n = m * 2 ^ k) ∨ n = UInt64.size - 1) := by
  have counted : (count.2 (ofMembers members)).toNat =
      min ⌊Double.nearest n⌋₊ (UInt64.size - 1) := by
    rw [count_ofMembers h, member, holds.toNat_asCount small]
  refine ⟨ofMembers members, rfl, counted, ?_⟩
  rw [counted, Double.min_floor_nearest_eq_iff small]

/-- A number of tokens of fifty-five binary digits that ends in zeros, as a text. -/
theorem counts_rounded_of_even_tokens :
    let text := Json.string " 18014398509481988 "
    ("approxOutputTokens", outputTokens) ∈ counts ∧ text.HoldsWhole 18014398509481988 ∧
      ∃ r, ofItem? (.object [("approxOutputTokens", text)]) = some r ∧
        r.outputTokens.toNat = 18014398509481988 := by
  intro text
  have listed : ("approxOutputTokens", outputTokens) ∈ counts := by simp [counts]
  have within : (Decimal.WholeText.ofNat 18014398509481988).Within " 18014398509481988 " :=
    ⟨[' '], [' '], List.all_eq_true.mp (by decide), List.all_eq_true.mp (by decide),
      by decide⟩
  have holds : text.HoldsWhole 18014398509481988 :=
    .text within (Decimal.WholeText.number_ofNat 18014398509481988)
  have member : Entries.get? "approxOutputTokens" [("approxOutputTokens", text)] = some text := rfl
  obtain ⟨r, read, -, exact⟩ := counts_rounded listed member holds (by decide)
  refine ⟨listed, holds, r, read, exact.mpr (.inl ⟨4503599627370497, 2, ?_, ?_⟩)⟩ <;> norm_num

/-- **A counter may lose a turn**: this number of turns lies half-way between two doubles. -/
theorem counts_lose_a_turn :
    ∃ r, ofItem? (.object [("turnCount", .number (.natural 9007199254740993)),
        ("lastLatencyMs", .string "9007199254740993")]) = some r ∧
      r.turns = 9007199254740992 ∧ r.latencyMs = 9007199254740992 := by
  exact ⟨⟨none, none, none, none, none, false, false, 9007199254740992, 9007199254740992, 0, 0⟩,
    by decide, rfl, rfl⟩

end CallRecord

end CallMeter
