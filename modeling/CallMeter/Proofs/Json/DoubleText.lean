import CallMeter.Json.Printer
import CallMeter.Json.Token
import CallMeter.Proofs.Decimal.Doubles

/-!
# The text of doubles

The text of a double is a literal whose digits fit the significand of the reader, whatever its
layout. So it is read as its shortest decimal, scaled once more.

## Main definitions

* `signed`: a text with its sign
* `Spells`: a text is read as a decimal that is scaled

## Main results

* `spells_plain`, `spells_scientific`: both layouts spell the decimal of their digits
* `spells_magnitude`: the text of a double spells its shortest decimal
-/

namespace CallMeter.Json

open Decimal

/-- A text with its sign. -/
def signed (negative : Bool) (cs : List Char) : List Char :=
  if negative then '-' :: cs else cs

/-- **A text spells a decimal** `s * 10 ^ e`: it is read as the double of `s`, scaled, with
whatever sign is put in front. -/
def Spells (cs : List Char) (s : ℕ) (e : ℤ) : Prop :=
  ∀ negative, readNumber? (signed negative cs) =
    (scale? (UInt64.ofNat s).toFloat e).map fun x => .double (if negative then -x else x)

section Literal

variable {whole tail fraction rest : List Char} {exponent : Option Int}

/-- **A literal in its parts**, with a minus in front or without. -/
theorem ofChars?_signed (negative : Bool) (hne : whole ≠ [])
    (hw : ∀ c ∈ whole, c.isDigit = true) (noZero : whole.head? ≠ some '0' ∨ whole = ['0'])
    (stop : tail.takeWhile Char.isDigit = []) (frac : readFraction? tail = some (fraction, rest))
    (scale : readScale? rest = some exponent) :
    Numeral.ofChars? (signed negative (whole ++ tail)) =
      some ⟨negative, whole, fraction, exponent⟩ := by
  have digits : (whole ++ tail).takeWhile Char.isDigit = whole := by
    rw [List.takeWhile_append_of_pos hw, stop, List.append_nil]
  have others : (whole ++ tail).dropWhile Char.isDigit = tail := by
    rw [List.dropWhile_append_of_pos hw]
    have parts := List.takeWhile_append_dropWhile (p := Char.isDigit) (l := tail)
    rw [stop] at parts
    exact parts
  have plain : (whole.isEmpty || whole.head? == some '0' && whole != ['0']) = false := by
    rw [List.isEmpty_eq_false_iff.mpr hne, Bool.false_or]
    rcases noZero with other | zero
    · rw [beq_eq_false_iff_ne.mpr other, Bool.false_and]
    · rw [zero]
      rfl
  have unsigned : ∀ r, whole ++ tail ≠ '-' :: r := by
    intro r e
    obtain ⟨c, cs, rfl⟩ := List.exists_cons_of_ne_nil hne
    obtain ⟨rfl, -⟩ := List.cons.inj e
    exact absurd (hw '-' List.mem_cons_self) (by decide)
  cases negative with
  | true =>
    rw [signed, if_pos rfl]
    simp only [Numeral.ofChars?, digits, others, plain, frac, Option.bind_eq_bind,
      Option.bind_some, scale]
    rfl
  | false =>
    rw [signed, if_neg Bool.false_ne_true]
    unfold Numeral.ofChars?
    split
    next negative unsigned' e =>
    split at e
    · next r hr => exact absurd hr (unsigned r)
    · obtain ⟨rfl, rfl⟩ := Prod.mk.inj e
      simp only [digits, others, plain, frac, Option.bind_eq_bind, Option.bind_some, scale]
      rfl

/-- **A literal whose digits fit** is a double if it has a fraction or an exponent. -/
theorem number?_of_fits (negative : Bool)
    (fits : value (whole ++ fraction) < UInt64.size)
    (double : (fraction.isEmpty && exponent.isNone) = false) :
    (Numeral.mk negative whole fraction exponent).number? =
      (scale? (UInt64.ofNat (value (whole ++ fraction))).toFloat
        (exponent.getD 0 - fraction.length)).map
          fun x => .double (if negative then -x else x) := by
  have fitsWhole : Nat.ofDigitChars 10 whole 0 < UInt64.size :=
    (value_le_append whole fraction).trans_lt fits
  have all : Nat.ofDigitChars 10 fraction (value whole) = value (whole ++ fraction) :=
    (Nat.ofDigitChars_append _).symm
  have rest := absorb_of_lt fraction (value whole) (all ▸ fits)
  rw [all] at rest
  have first : absorb 0 whole = (value whole, 0) := absorb_of_lt whole 0 fitsWhole
  simp only [Numeral.number?, first, double, rest]
  simp

end Literal

/-! ## Layouts -/

section Layouts

variable {ds : List Char} {E : ℤ}

theorem takeWhile_of_head {c : Char} {cs : List Char} (h : c.isDigit = false) :
    (c :: cs).takeWhile Char.isDigit = [] := by
  rw [List.takeWhile_cons_of_neg (by rw [h]; exact Bool.false_ne_true)]

/-- Digits after a point. -/
theorem readFraction?_point (hne : ds ≠ []) (hd : ∀ c ∈ ds, c.isDigit = true) {tail : List Char}
    (stop : tail.takeWhile Char.isDigit = []) :
    readFraction? ('.' :: (ds ++ tail)) = some (ds, tail) := by
  have digits : (ds ++ tail).takeWhile Char.isDigit = ds := by
    rw [List.takeWhile_append_of_pos hd, stop, List.append_nil]
  have others : (ds ++ tail).dropWhile Char.isDigit = tail := by
    rw [List.dropWhile_append_of_pos hd]
    have parts := List.takeWhile_append_dropWhile (p := Char.isDigit) (l := tail)
    rw [stop] at parts
    exact parts
  rw [readFraction?]
  simp only [digits, others, List.isEmpty_eq_false_iff.mpr hne]
  rfl

/-- A whole part and a fraction. -/
theorem spells_point {whole fraction : List Char} (hne : whole ≠ [])
    (hw : ∀ c ∈ whole, c.isDigit = true) (noZero : whole.head? ≠ some '0' ∨ whole = ['0'])
    (hne' : fraction ≠ []) (hf : ∀ c ∈ fraction, c.isDigit = true)
    (fits : value (whole ++ fraction) < UInt64.size) :
    Spells (whole ++ '.' :: fraction) (value (whole ++ fraction)) (-fraction.length) := by
  intro negative
  have frac : readFraction? ('.' :: fraction) = some (fraction, []) := by
    have stop : ([] : List Char).takeWhile Char.isDigit = [] := rfl
    have all := readFraction?_point hne' hf stop
    rwa [List.append_nil] at all
  rw [readNumber?, ofChars?_signed negative hne hw noZero (takeWhile_of_head (by decide)) frac rfl]
  refine (number?_of_fits negative fits ?_).trans ?_
  · rw [List.isEmpty_eq_false_iff.mpr hne', Bool.false_and]
  · rw [Option.getD_none, zero_sub]

theorem digit_zero : ∀ c ∈ ['0'], c.isDigit = true :=
  List.forall_mem_singleton.mpr rfl

theorem lt_size_of_le {n : ℕ} (h : n ≤ 10 ^ 17) : n < UInt64.size :=
  h.trans_lt (by decide)

/-- A scale in two parts. -/
theorem mul_ten_zpow {n : ℚ} {z : ℕ} {e f : ℤ} (h : e = z + f) :
    n * 10 ^ z * 10 ^ f = n * 10 ^ e := by
  rw [h, zpow_add₀ (by norm_num), zpow_natCast, mul_assoc]

variable (hne : ds ≠ []) (hd : ∀ c ∈ ds, c.isDigit = true) (first : ds.head? ≠ some '0')
  (few : value ds ≤ 10 ^ 17)
include hne hd first few

/-- **The layout without an exponent** spells the decimal of its digits. -/
theorem spells_plain (hE : E ≤ 15) :
    ∃ s e, Spells (doubleLayout.plain ds E) s e ∧ s ≤ 10 ^ 17 ∧
      (s = value ds ∨ e = -1 ∧ 10 ∣ s) ∧
      (s : ℚ) * 10 ^ e = value ds * 10 ^ (E + 1 - ds.length) := by
  have zero {z : ℕ} : ∀ c ∈ List.replicate z '0', c.isDigit = true := by
    intro c hc
    rw [List.eq_of_mem_replicate hc]
    rfl
  rw [Layout.plain]
  by_cases small : E < 0
  · rw [if_pos small]
    obtain ⟨z, hz⟩ : ∃ z, (-E - 1).toNat = z := ⟨_, rfl⟩
    have same : value (['0'] ++ (List.replicate z '0' ++ ds)) = value ds := by
      rw [← List.append_assoc, show ['0'] ++ List.replicate z '0' = List.replicate (z + 1) '0'
        from rfl, value_zeros_append]
    rw [hz]
    have point := spells_point (List.cons_ne_nil '0' []) digit_zero (.inr rfl)
      (List.append_ne_nil_of_right_ne_nil (List.replicate z '0') hne)
      (fun c hc => (List.mem_append.mp hc).elim (zero c) (hd c)) (same ▸ lt_size_of_le few)
    rw [same] at point
    refine ⟨value ds, _, point, few, .inl rfl, ?_⟩
    congr 2
    rw [List.length_append, List.length_replicate]
    push_cast
    omega
  rw [if_neg small]
  dsimp only
  by_cases long : ds.length ≤ E.toNat + 1
  · rw [if_pos long, if_pos (show doubleLayout.keepFraction = true from rfl)]
    obtain ⟨z, hz⟩ : ∃ z, E.toNat + 1 - ds.length = z := ⟨_, rfl⟩
    have scaled : value (ds ++ List.replicate z '0' ++ ['0']) = value ds * 10 ^ (z + 1) := by
      rw [List.append_assoc, ← List.replicate_succ', value_append_zeros]
    have most : value ds * 10 ^ (z + 1) ≤ 10 ^ 17 := by
      have digits := value_lt hd
      calc value ds * 10 ^ (z + 1) ≤ 10 ^ ds.length * 10 ^ (z + 1) :=
            Nat.mul_le_mul_right _ digits.le
        _ = 10 ^ (ds.length + (z + 1)) := (pow_add _ _ _).symm
        _ ≤ 10 ^ 17 := Nat.pow_le_pow_right (by decide) (by omega)
    rw [hz, List.append_assoc, ← List.append_assoc]
    have point := spells_point (List.append_ne_nil_of_left_ne_nil hne (List.replicate z '0'))
      (fun c hc => (List.mem_append.mp hc).elim (hd c) (zero c))
      (.inl (by rwa [List.head?_append_of_ne_nil _ hne])) (List.cons_ne_nil '0' []) digit_zero
      (scaled ▸ lt_size_of_le most)
    rw [scaled] at point
    refine ⟨_, _, point, most, .inr ⟨rfl, Dvd.intro_left _ (pow_succ 10 z).symm |>.mul_left _⟩, ?_⟩
    push_cast
    refine mul_ten_zpow ?_
    rw [List.length_singleton]
    push_cast
    omega
  · rw [if_neg long]
    have same : value (ds.take (E.toNat + 1) ++ ds.drop (E.toNat + 1)) = value ds := by
      rw [List.take_append_drop]
    have whole : ds.take (E.toNat + 1) ≠ [] := by simp [hne]
    have fraction : ds.drop (E.toNat + 1) ≠ [] := List.drop_eq_nil_iff.not.mpr long
    have point := spells_point whole (fun c hc => hd c (List.mem_of_mem_take hc))
      (.inl (by rwa [List.head?_take, if_neg (Nat.succ_ne_zero _)])) fraction
      (fun c hc => hd c (List.mem_of_mem_drop hc)) (same ▸ lt_size_of_le few)
    rw [same] at point
    refine ⟨_, _, point, few, .inl rfl, ?_⟩
    congr 2
    rw [List.length_drop]
    omega

/-- **The layout with an exponent** spells the decimal of its digits. -/
theorem spells_scientific (E : ℤ) :
    ∃ s e, Spells (Layout.scientific ds E) s e ∧ s ≤ 10 ^ 17 ∧
      (s = value ds ∨ e = -1 ∧ 10 ∣ s) ∧
      (s : ℚ) * 10 ^ e = value ds * 10 ^ (E + 1 - ds.length) := by
  obtain ⟨tail, htail⟩ : ∃ tail, 'e' :: (if E < 0 then '-' else '+') :: digits E.natAbs = tail :=
    ⟨_, rfl⟩
  have stop : tail.takeWhile Char.isDigit = [] := htail ▸ takeWhile_of_head (by decide)
  have scale : readScale? tail = some (some E) := by
    rw [← htail, readScale?, if_pos (by decide)]
    split_ifs with negative
    · rw [readExponent?, readNat?_digits]
      show some (some (-(E.natAbs : ℤ))) = _
      congr 2
      omega
    · rw [readExponent?, readNat?_digits]
      show some (some (E.natAbs : ℤ)) = _
      congr 2
      omega
  obtain ⟨d, r, rfl⟩ := List.exists_cons_of_ne_nil hne
  obtain ⟨digit, others⟩ := List.forall_mem_cons.mp hd
  have whole : ∀ c ∈ [d], c.isDigit = true := List.forall_mem_singleton.mpr digit
  refine ⟨value (d :: r), E - r.length, ?_, few, .inl rfl, ?_⟩
  · intro negative
    have read (fraction : List Char) (hf : fraction = r) {rest : List Char}
        (frac : readFraction? rest = some (fraction, tail))
        (restStop : rest.takeWhile Char.isDigit = []) :
        readNumber? (signed negative ([d] ++ rest)) =
          (scale? (UInt64.ofNat (value (d :: r))).toFloat (E - r.length)).map fun x =>
            .double (if negative then -x else x) := by
      subst hf
      rw [readNumber?, ofChars?_signed negative (List.cons_ne_nil _ _) whole (.inl first) restStop
        frac scale]
      refine (number?_of_fits negative (lt_size_of_le few) ?_).trans ?_
      · rw [Option.isNone_some, Bool.and_false]
      · rfl
    cases r with
    | nil =>
      have shape : Layout.scientific [d] E = [d] ++ tail := by
        rw [← htail]
        rfl
      rw [shape]
      refine read [] rfl ?_ stop
      rw [← htail]
      rfl
    | cons d' r =>
      have shape : Layout.scientific (d :: d' :: r) E = [d] ++ '.' :: (d' :: r ++ tail) := by
        rw [← htail]
        rfl
      rw [shape]
      exact read (d' :: r) rfl (readFraction?_point (List.cons_ne_nil _ _) others stop)
        (takeWhile_of_head (by decide))
  · congr 2
    rw [List.length_cons]
    push_cast
    omega

end Layouts

/-! ## Doubles -/

section Doubles

open Double
open Float.Model.UnpackedFloat (Sign)

variable {x : Float} {s : Sign} {m : ℕ} {e : ℤ} {pos : 0 < m}

/-- **The text of a double spells its shortest decimal**, whose digits are those of the
coefficient or those of a whole number with one zero after the point. -/
theorem spells_magnitude (h : parts x = .finite s m e pos) :
    ∃ n k, Spells (doubleLayout.magnitude x) n k ∧ 0 < n ∧ n ≤ 10 ^ 17 ∧
      (n ≤ (shortest .toEven x).coefficient ∨ k = -1 ∧ 10 ∣ n) ∧
      (n : ℚ) * 10 ^ k = (shortest .toEven x).toRat := by
  obtain ⟨least, most, -⟩ := shortest_spec h .toEven
  obtain ⟨c, hc⟩ : ∃ c, (shortest .toEven x).coefficient = c := ⟨_, rfl⟩
  rw [hc] at least most
  obtain ⟨z, hz⟩ := stripZeros_append (digits c)
  obtain ⟨ds, hds⟩ : ∃ ds, stripZeros (digits c) = ds := ⟨_, rfl⟩
  rw [hds] at hz
  have scaled : value ds * 10 ^ z = c := by
    rw [← value_append_zeros, ← hz, value_digits]
  have hne : ds ≠ [] := by
    rintro rfl
    have none : value [] = 0 := rfl
    rw [none] at scaled
    omega
  have hd : ∀ d ∈ ds, d.isDigit = true := by
    intro d hd
    exact isDigit_of_mem_digits (n := c) (hz ▸ List.mem_append_left _ hd)
  have first : ds.head? ≠ some '0' := by
    have head := head?_digits (n := c) (by omega)
    rwa [hz, List.head?_append_of_ne_nil _ hne] at head
  have fewer : value ds ≤ c :=
    (Nat.le_mul_of_pos_right _ (Nat.pow_pos (by decide))).trans scaled.le
  have few : value ds ≤ 10 ^ 17 := fewer.trans most
  have length : (digits c).length = ds.length + z := by
    rw [hz, List.length_append, List.length_replicate]
  obtain ⟨E, hE⟩ : ∃ E, (shortest .toEven x).exponent + ((digits c).length : ℤ) - 1 = E :=
    ⟨_, rfl⟩
  have number : (value ds : ℚ) * 10 ^ (E + 1 - ds.length) = (shortest .toEven x).toRat := by
    rw [Scientific.toRat, hc, ← scaled]
    push_cast
    refine (mul_ten_zpow ?_).symm
    omega
  have spelled : ∃ n k, Spells (doubleLayout.magnitude x) n k ∧ n ≤ 10 ^ 17 ∧
      (n = value ds ∨ k = -1 ∧ 10 ∣ n) ∧
      (n : ℚ) * 10 ^ k = value ds * 10 ^ (E + 1 - ds.length) := by
    have some : ((Dyadic.ofFloat x).mantissa == 0) = false := by
      rw [ofFloat_of_finite h]
      exact beq_eq_false_iff_ne.mpr pos.ne'
    rw [Layout.magnitude, some, if_neg Bool.false_ne_true]
    simp only [show doubleLayout.tie = .toEven from rfl, hc, hds, hE]
    split_ifs with positional
    · exact spells_plain hne hd first few (of_decide_eq_true positional).2
    · exact spells_scientific hne hd first few E
  obtain ⟨n, k, spells, le, digitsOf, same⟩ := spelled
  rw [number] at same
  have positive : 0 < (n : ℚ) * 10 ^ k := by
    rw [same, Scientific.toRat, hc]
    exact mul_pos (Nat.cast_pos.mpr least) (ten_zpow_pos _)
  refine ⟨n, k, spells, ?_, le, ?_, same⟩
  · exact_mod_cast (mul_pos_iff_of_pos_right (ten_zpow_pos k)).mp positive
  · rw [hc]
    exact digitsOf.imp_left fun own => own.trans_le fewer

/-- The text of a finite double is its sign and its magnitude. -/
theorem writeNumber_double (finite : x.isFinite = true) :
    writeNumber (.double x) = signed (isNegative x) (doubleLayout.magnitude x) := by
  have number : x.isNaN = false := by
    show (parts x).isNaN = false
    rw [isFinite_eq] at finite
    cases hx : parts x with
    | notANumber =>
      rw [hx] at finite
      exact absurd finite Bool.false_ne_true
    | _ => rfl
  rw [writeNumber, if_pos finite, Layout.render, number, if_neg Bool.false_ne_true, finite,
    if_pos rfl, signed]
  split_ifs
  · simp
  · simp

end Doubles

end CallMeter.Json
