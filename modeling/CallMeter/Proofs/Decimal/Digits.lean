import CallMeter.Decimal.Digits
import Mathlib.Algebra.GroupWithZero.Nat
import Mathlib.Data.List.TakeWhile
import Mathlib.Data.Nat.Init

/-!
# Values of digits

The number that a run of digits denotes, from those of its parts.

## Main results

* `value_append`, `value_lt`: runs one after the other, and how large a run can be
* `eq_of_value_eq`: runs of one length are determined by their numbers
* `length_digits_bounds`: how long the digits of a number are
* `stripZeros_append`: the zeros at the end of a run
-/

namespace CallMeter.Decimal

theorem value_cons (c : Char) (cs : List Char) :
    value (c :: cs) = 10 ^ cs.length * (c.toNat - '0'.toNat) + value cs := by
  rw [value, Nat.ofDigitChars_cons, Nat.ofDigitChars_eq_ofDigitChars_zero, Nat.mul_zero,
    Nat.zero_add, ← value]

theorem isDigit_iff (c : Char) : c.isDigit = true ↔ '0'.toNat ≤ c.toNat ∧ c.toNat ≤ '9'.toNat := by
  simp only [Char.isDigit, Bool.and_eq_true, decide_eq_true_eq]
  rfl

theorem value_lt {cs : List Char} (h : ∀ c ∈ cs, c.isDigit = true) : value cs < 10 ^ cs.length := by
  induction cs with
  | nil => exact Nat.one_pos
  | cons c cs ih =>
    obtain ⟨hc, hcs⟩ := List.forall_mem_cons.mp h
    have digit : c.toNat - '0'.toNat ≤ 9 := by
      have := ((isDigit_iff c).mp hc).2
      have nine : '9'.toNat = '0'.toNat + 9 := rfl
      omega
    have rest := ih hcs
    rw [value_cons, List.length_cons, Nat.pow_succ]
    have := Nat.mul_le_mul_left (10 ^ cs.length) digit
    omega

theorem value_append (cs ds : List Char) :
    value (cs ++ ds) = value cs * 10 ^ ds.length + value ds := by
  rw [value, Nat.ofDigitChars_append, Nat.ofDigitChars_eq_ofDigitChars_zero, Nat.mul_comm, ← value,
    ← value]

theorem value_append_zeros (cs : List Char) (z : Nat) :
    value (cs ++ List.replicate z '0') = value cs * 10 ^ z := by
  rw [value, Nat.ofDigitChars_append, Nat.ofDigitChars_replicate_zero, Nat.mul_comm, ← value]

theorem value_zeros_append (z : Nat) (cs : List Char) :
    value (List.replicate z '0' ++ cs) = value cs := by
  rw [value, Nat.ofDigitChars_append, Nat.ofDigitChars_replicate_zero, Nat.mul_zero, ← value]

/-- A run of digits is not below the digits it starts with. -/
theorem value_le_append (cs ds : List Char) : value cs ≤ value (cs ++ ds) := by
  rw [value_append]
  exact Nat.le_trans (Nat.le_mul_of_pos_right _ (Nat.pow_pos (by decide))) (Nat.le_add_right _ _)

/-- A text denotes a number if it is a run of digits, and then their value. -/
theorem readNat?_eq_some {cs : List Char} {n : ℕ} :
    readNat? cs = some n ↔ cs ≠ [] ∧ (∀ c ∈ cs, c.isDigit = true) ∧ n = value cs := by
  rw [readNat?]
  split
  · next h =>
    have run : cs ≠ [] ∧ ∀ c ∈ cs, c.isDigit = true := by simpa using h
    rw [Option.some_inj]
    exact ⟨fun e => ⟨run.1, run.2, e.symm⟩, fun e => e.2.2.symm⟩
  · next h =>
    refine iff_of_false (by simp) fun e => h ?_
    simpa using ⟨e.1, e.2.1⟩

/-- **Digits of one length** that denote the same number are the same. -/
theorem eq_of_value_eq {cs ds : List Char} (length : cs.length = ds.length)
    (hc : ∀ c ∈ cs, c.isDigit = true) (hd : ∀ d ∈ ds, d.isDigit = true)
    (h : value cs = value ds) : cs = ds := by
  induction cs generalizing ds with
  | nil => exact (List.length_eq_zero_iff.mp length.symm).symm
  | cons c cs ih =>
    cases ds with
    | nil => cases length
    | cons d ds =>
      have same : cs.length = ds.length := Nat.succ.inj length
      obtain ⟨digit, hcs⟩ := List.forall_mem_cons.mp hc
      obtain ⟨digit', hds⟩ := List.forall_mem_cons.mp hd
      have lower := ((isDigit_iff c).mp digit).1
      have lower' := ((isDigit_iff d).mp digit').1
      have rest := value_lt hcs
      have rest' := value_lt hds
      rw [value_cons, value_cons, same] at h
      rw [same] at rest
      -- the first digit is the quotient by a power of ten, and the others are the remainder
      have first := congrArg (· / 10 ^ ds.length) h
      have others := congrArg (· % 10 ^ ds.length) h
      simp only [Nat.mul_add_div (Nat.pow_pos (show 0 < 10 by decide)), Nat.div_eq_of_lt rest,
        Nat.div_eq_of_lt rest'] at first
      simp only [Nat.mul_add_mod, Nat.mod_eq_of_lt rest, Nat.mod_eq_of_lt rest'] at others
      rw [ih same hcs hds others, Char.toNat_inj.mp (show c.toNat = d.toNat by omega)]

/-- The digits of a number tell the power of ten below it. -/
theorem length_digits_bounds {n : ℕ} (h : 0 < n) :
    10 ^ ((digits n).length - 1) ≤ n ∧ n < 10 ^ (digits n).length := by
  have len : 0 < (digits n).length := List.length_pos_iff.mpr (digits_ne_nil n)
  refine ⟨?_, (Nat.length_toDigits_le_iff (by decide) len).mp le_rfl⟩
  by_contra less
  rcases Nat.eq_zero_or_pos ((digits n).length - 1) with none | some
  · rw [none] at less
    omega
  · have short := (Nat.length_toDigits_le_iff (by decide) some).mpr (not_le.mp less)
    have : (digits n).length ≤ (digits n).length - 1 := short
    omega

/-- The digits of a number other than zero do not start with a zero. -/
theorem head?_digits {n : Nat} (h : n ≠ 0) : (digits n).head? ≠ some '0' := by
  induction n using Nat.strong_induction_on with
  | _ n ih =>
    rcases Nat.lt_or_ge n 10 with hlt | hge
    · rw [digits, Nat.toDigits_of_lt_base hlt]
      have digit : ∀ d < 10, d ≠ 0 → [Nat.digitChar d].head? ≠ some '0' := by decide
      exact digit n hlt h
    · have shorter := ih (n / 10) (by omega) (by omega)
      obtain ⟨c, cs, hcs⟩ :=
        List.exists_cons_of_ne_nil (Nat.toDigits_ne_nil (n := n / 10) (b := 10))
      rw [digits, hcs] at shorter
      rw [digits, Nat.toDigits_of_base_le (by decide) hge, hcs]
      exact shorter

/-! ## Zeros at the end -/

/-- **A run of digits** is what is left of it without the zeros at its end, and these zeros. -/
theorem stripZeros_append (cs : List Char) :
    ∃ z, cs = stripZeros cs ++ List.replicate z '0' := by
  refine ⟨(cs.reverse.takeWhile (· == '0')).length, ?_⟩
  have zeros : cs.reverse.takeWhile (· == '0') =
      List.replicate (cs.reverse.takeWhile (· == '0')).length '0' :=
    List.eq_replicate_of_mem fun c hc => by
      have zero := List.mem_takeWhile_imp hc
      exact beq_iff_eq.mp zero
  calc cs = (cs.reverse.takeWhile (· == '0') ++ cs.reverse.dropWhile (· == '0')).reverse := by
        rw [List.takeWhile_append_dropWhile, List.reverse_reverse]
    _ = stripZeros cs ++ (cs.reverse.takeWhile (· == '0')).reverse := List.reverse_append
    _ = _ := by rw [zeros, List.reverse_replicate, List.length_replicate]

end CallMeter.Decimal
