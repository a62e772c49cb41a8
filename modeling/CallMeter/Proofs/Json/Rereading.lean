import CallMeter.Proofs.Json.DoubleText
import CallMeter.Proofs.Json.Spelled

/-!
# Read anew

A value that came out of the reader can be written and read again. It has the same text fields
and flags then; integers stay as they are, and only a double may have become another one. So a
count stays, unless it is the whole part of a double that changes.

## Main definitions

* `KeepsCount`: a value that is the same count when it is written and read again
* `FewDigits`: a double of at most fifteen digits

## Main results

* `readNumber?_double`: a double is read as one with its sign, which is zero if it is
* `readNumber?_double_of_few`: a double of few digits is read as the double it was
* `exists_reread`: a legible value can be read anew
* `asFlag_reread`, `asCount_reread`: flags stay, and so do the counts that are kept
* `keepsCount_of_ne_double`, `keepsCount_of_fewDigits`: integers and doubles of few digits are kept
-/

namespace CallMeter.Json

open Decimal (isNegative shortest)
open Double
open Float.Model (UnpackedFloat)
open Float.Model.UnpackedFloat (Sign)

/-! ## Doubles -/

section Doubles

variable {x : Float}

/-- The text of a zero spells zero. -/
theorem spells_zero {s : Sign} (h : parts x = .zero s) :
    Spells (doubleLayout.magnitude x) 0 (-1) := by
  have text : doubleLayout.magnitude x = ['0'] ++ '.' :: ['0'] := by
    rw [Decimal.Layout.magnitude, Decimal.ofFloat_of_zero h]
    rfl
  rw [text]
  exact spells_point (List.cons_ne_nil _ _) digit_zero (.inr rfl) (List.cons_ne_nil _ _)
    digit_zero (lt_size_of_le (Nat.zero_le _))

section Finite

variable {s : Sign} {m : ℕ} {e : ℤ} {pos : 0 < m} (h : parts x = .finite s m e pos)
include h

/-- **A double is read anew** by scaling the digits of its shortest decimal, and its sign stays. -/
theorem exists_scaled :
    ∃ n k g, readNumber? (writeNumber (.double x)) =
        some (.double (if isNegative x then -g else g)) ∧
      scale? (UInt64.ofNat n).toFloat k = some g ∧ 0 < value g ∧ 0 < n ∧ n ≤ 10 ^ 17 ∧
      (n ≤ (shortest .toEven x).coefficient ∨ k = -1 ∧ 10 ∣ n) ∧
      (n : ℚ) * 10 ^ k = (shortest .toEven x).toRat := by
  have finite : x.isFinite = true := by
    rw [isFinite_eq, h]
    rfl
  obtain ⟨n, k, spells, positive, few, digits, same⟩ := spells_magnitude h
  obtain ⟨g, hg, nonzero⟩ := exists_scale? positive few
    (same ▸ Decimal.le_shortest h) (same ▸ Decimal.shortest_le_largest h)
  have read := spells (isNegative x)
  rw [← writeNumber_double finite, hg, Option.map_some] at read
  exact ⟨n, k, g, read, hg, nonzero, positive, few, digits, same⟩

theorem beq_zero_of_finite : (x == 0.0) = false := by
  rw [Bool.eq_false_iff, Ne, beq_zero_iff, h]
  rintro ⟨s', ⟨⟩⟩

end Finite

/-- **A double is read anew** as a double with its sign, which is zero if it was zero. -/
theorem readNumber?_double (finite : x.isFinite = true) :
    ∃ g, readNumber? (writeNumber (.double x)) =
        some (.double (if isNegative x then -g else g)) ∧ (g == 0.0) = (x == 0.0) := by
  have parted := finite
  rw [isFinite_eq] at parted
  cases h : parts x with
  | notANumber =>
    rw [h] at parted
    exact absurd parted Bool.false_ne_true
  | infinity s =>
    rw [h] at parted
    exact absurd parted Bool.false_ne_true
  | zero s =>
    obtain ⟨unsigned, same⟩ :=
      unsigned_div_powerOfTen (unsigned_toFloat (UInt64.ofNat 0)) (k := 1) (by decide)
    have zero : value ((UInt64.ofNat 0).toFloat / powerOfTen 1) = 0 := by
      rw [same, value_toFloat_ofNat (Nat.zero_le _), Nat.cast_zero, nearest_zero, zero_div,
        nearest_zero]
    rw [writeNumber_double finite]
    refine ⟨(UInt64.ofNat 0).toFloat / powerOfTen 1, spells_zero h (isNegative x), ?_⟩
    rw [beq_zero_iff.mpr ⟨s, h⟩, beq_iff_value_eq unsigned unsigned_zero, zero,
      value_of_zero parts_zero]
  | finite s m e pos =>
    obtain ⟨n, k, g, read, scaled, nonzero, -⟩ := exists_scaled h
    refine ⟨g, read, ?_⟩
    rw [beq_zero_of_finite h, Bool.eq_false_iff, Ne,
      beq_iff_value_eq (unsigned_of_scale? (unsigned_toFloat _) scaled) unsigned_zero,
      value_of_zero parts_zero]
    exact nonzero.ne'

/-! ## Few digits -/

/-- The digits of a short decimal are exact as a double, and scaled by an exact power of ten. -/
theorem exact_of_few {d : Decimal.Scientific} {n : ℕ} {k : ℤ} (pos : 0 < n)
    (digits : n ≤ d.coefficient ∨ k = -1 ∧ 10 ∣ n) (same : (n : ℚ) * 10 ^ k = d.toRat)
    (few : d.coefficient < 10 ^ 15) (places : -22 ≤ d.exponent) (small : d.toRat < 10 ^ 15) :
    nearest n = n ∧ -22 ≤ k ∧ k ≤ 22 := by
  rcases digits with own | ⟨rfl, j, rfl⟩
  · have grid := nearest_of_grid (m := n) (e := 0) (by omega) (by norm_num)
    rw [zpow_zero, mul_one] at grid
    refine ⟨grid, places.trans ?_, ?_⟩
    · have less : (n : ℚ) * 10 ^ d.exponent ≤ n * 10 ^ k := by
        rw [same]
        exact mul_le_mul_of_nonneg_right (Nat.cast_le.mpr own) (Decimal.ten_zpow_pos _).le
      have power := le_of_mul_le_mul_left less (Nat.cast_pos.mpr pos)
      exact (zpow_le_zpow_iff_right₀ (by norm_num)).mp power
    · have less : (10 : ℚ) ^ k < 10 ^ (15 : ℤ) := by
        rw [← same] at small
        refine lt_of_le_of_lt (le_mul_of_one_le_left (Decimal.ten_zpow_pos k).le ?_) small
        exact Nat.one_le_cast.mpr pos
      have := (zpow_lt_zpow_iff_right₀ (by norm_num)).mp less
      omega
  · -- a whole number below `10 ^ 15` with one zero after the point has an even significand
    have whole : j < 10 ^ 15 := by
      rw [← same, Nat.cast_mul, zpow_neg_one, Nat.cast_ofNat, mul_right_comm,
        mul_inv_cancel₀ (by norm_num), one_mul] at small
      exact_mod_cast small
    have grid := nearest_of_grid (m := 5 * j) (e := 1) (by omega) (by norm_num)
    have even : ((5 * j : ℕ) : ℚ) * 2 ^ (1 : ℤ) = (10 * j : ℕ) := by
      rw [zpow_one]
      push_cast
      ring
    rw [even] at grid
    exact ⟨grid, by norm_num, by norm_num⟩

/-- **A double of few digits** is read anew as the double it was: up to fifteen digits below
`10 ^ 15`, and no more than twenty-two places. -/
theorem readNumber?_double_of_few {s : Sign} {m : ℕ} {e : ℤ} {pos : 0 < m}
    (h : parts x = .finite s m e pos) (few : (shortest .toEven x).coefficient < 10 ^ 15)
    (places : -22 ≤ (shortest .toEven x).exponent)
    (small : (shortest .toEven x).toRat < 10 ^ 15) :
    ∃ g, readNumber? (writeNumber (.double x)) =
        some (.double (if isNegative x then -g else g)) ∧ Unsigned g ∧ value g = m * 2 ^ e := by
  obtain ⟨n, k, g, read, scaled, -, positive, most, digits, same⟩ := exists_scaled h
  obtain ⟨exact, low, high⟩ := exact_of_few positive digits same few places small
  refine ⟨g, read, unsigned_of_scale? (unsigned_toFloat _) scaled, ?_⟩
  calc value g = nearest (value (UInt64.ofNat n).toFloat * 10 ^ k) :=
        value_of_scale? (unsigned_toFloat _) low high scaled
    _ = nearest (shortest .toEven x).toRat := by rw [value_toFloat_ofNat most, exact, same]
    _ = m * 2 ^ e := Decimal.nearest_shortest h .toEven

end Doubles

/-! ## Values -/

section Values

variable {room : Nat} {v w : Json}

theorem exists_rereadItems {items : List Json} (h : ∀ v ∈ items, ∃ w, reread room v = some w) :
    ∃ ws, rereadItems room items = some ws := by
  induction items with
  | nil => exact ⟨[], rfl⟩
  | cons v items ih =>
    obtain ⟨⟨w, hw⟩, hitems⟩ := List.forall_mem_cons.mp h
    obtain ⟨ws, hws⟩ := ih hitems
    refine ⟨w :: ws, ?_⟩
    rw [rereadItems, hw, Option.bind_some, hws, Option.map_some]

theorem exists_rereadMembers {members : List (String × Json)}
    (h : ∀ e ∈ members, ∃ w, reread room e.2 = some w) :
    ∃ entries, rereadMembers room members = some entries := by
  induction members with
  | nil => exact ⟨[], rfl⟩
  | cons e members ih =>
    obtain ⟨⟨w, hw⟩, hmembers⟩ := List.forall_mem_cons.mp h
    obtain ⟨entries, hentries⟩ := ih hmembers
    refine ⟨(e.1, w) :: entries, ?_⟩
    rw [rereadMembers, hw, Option.bind_some, hentries, Option.map_some]

theorem exists_wordScalar? {n : Number} (h : n.IsFinite) :
    ∃ w, wordScalar? (writeNumber n) = some w := by
  cases n with
  | natural n => exact ⟨_, wordScalar?_of_isInteger h⟩
  | negative m => exact ⟨_, wordScalar?_of_isInteger h⟩
  | double x =>
    obtain ⟨g, hg, -⟩ := readNumber?_double h
    exact ⟨_, wordScalar?_of_readNumber? hg⟩

/-- **A legible value can be read anew.** -/
theorem exists_reread (h : Legible room v) : ∃ w, reread room v = some w := by
  induction h with
  | null | bool | string => exact ⟨_, rfl⟩
  | number h => exact exists_wordScalar? h
  | array h ih =>
    obtain ⟨ws, hws⟩ := exists_rereadItems ih
    exact ⟨_, by rw [reread, hws, Option.map_some]⟩
  | object once h ih =>
    obtain ⟨entries, hentries⟩ := exists_rereadMembers ih
    exact ⟨_, by rw [reread, hentries, Option.map_some]⟩

/-! ## Flags and counts -/

/-- **A flag stays** when its value is read anew. -/
theorem asFlag_reread (legible : Legible room v) (h : reread room v = some w) :
    asFlag (some w) = asFlag (some v) := by
  cases legible with
  | null | bool | string =>
    cases h
    rfl
  | @number _ n finite =>
    cases n with
    | natural n =>
      cases (wordScalar?_of_isInteger (n := .natural n) finite).symm.trans h
      rfl
    | negative m =>
      cases (wordScalar?_of_isInteger (n := .negative m) finite).symm.trans h
      rfl
    | double x =>
      obtain ⟨g, hg, zero⟩ := readNumber?_double finite
      obtain rfl := Option.some_inj.mp ((wordScalar?_of_readNumber? hg).symm.trans h)
      show (!((if isNegative x then -g else g) == 0.0)) = !(x == 0.0)
      rw [← zero]
      split
      · rw [neg_beq_zero]
      · rfl
  | array =>
    obtain ⟨ws, -, rfl⟩ := Option.map_eq_some_iff.mp h
    rfl
  | object =>
    obtain ⟨entries, -, rfl⟩ := Option.map_eq_some_iff.mp h
    rfl

/-- **A count that stays**: written and read again, a number is the same count. -/
def KeepsCount (v : Json) : Prop :=
  ∀ n, v = .number n → asCount (wordScalar? (writeNumber n)) = asCount (some v)

/-- **Integers stay**, and all that is no number is read as it was written. -/
theorem keepsCount_of_ne_double (legible : Legible room v)
    (other : ∀ x, v ≠ .number (.double x)) : KeepsCount v := by
  rintro n rfl
  cases legible with
  | number finite =>
    cases n with
    | natural n => rw [wordScalar?_of_isInteger (n := .natural n) finite]
    | negative m => rw [wordScalar?_of_isInteger (n := .negative m) finite]
    | double x => exact absurd rfl (other x)

/-- What a double counts is in its parts. -/
theorem asCount_congr {x y : Float} (same : parts x = parts y) :
    asCount (some (.number (.double x))) = asCount (some (.number (.double y))) := by
  have finite : x.isFinite = y.isFinite := by rw [isFinite_eq, isFinite_eq, same]
  have positive : 0.0 < x ↔ 0.0 < y := by rw [lt_iff_compare, lt_iff_compare, same]
  have whole : x.toUInt64 = y.toUInt64 := congrArg UnpackedFloat.toUInt64 same
  show (if x.isFinite && decide (0.0 < x) then x.toUInt64 else 0) =
    if y.isFinite && decide (0.0 < y) then y.toUInt64 else 0
  rw [finite, decide_eq_decide.mpr positive, whole]

/-- A count of few digits that is not zero stays. -/
theorem keepsCount_of_few {x : Float} {s : Sign} {m : ℕ} {e : ℤ} {pos : 0 < m}
    (h : parts x = .finite s m e pos) (few : (shortest .toEven x).coefficient < 10 ^ 15)
    (places : -22 ≤ (shortest .toEven x).exponent)
    (small : (shortest .toEven x).toRat < 10 ^ 15) : KeepsCount (.number (.double x)) := by
  rintro n ⟨⟩
  obtain ⟨g, read, unsigned, number⟩ := readNumber?_double_of_few h few places small
  rw [wordScalar?_of_readNumber? read]
  apply asCount_congr
  have sign := Decimal.sign_of_finite h
  split_ifs at sign ⊢ with negative
  · have magnitude : parts (-x) = .finite .positive m e pos := by
      rw [parts_neg, h, sign]
      rfl
    have same := parts_eq_of_value_eq unsigned (.finite magnitude)
      (number.trans (value_of_finite magnitude).symm)
    rw [parts_neg, same, magnitude, h, sign]
    rfl
  · rw [sign] at h
    exact parts_eq_of_value_eq unsigned (.finite h) (number.trans (value_of_finite h).symm)

theorem asCount_of_zero {x : Float} (h : (x == 0.0) = true) :
    asCount (some (.number (.double x))) = 0 := by
  obtain ⟨s, hs⟩ := beq_zero_iff.mp h
  have high : ¬ 0.0 < x := by
    rw [lt_iff_compare, hs, parts_zero]
    simp [UnpackedFloat.compare]
  show (if x.isFinite && decide (0.0 < x) then x.toUInt64 else 0) = 0
  rw [decide_eq_false high, Bool.and_false]
  rfl

/-- **Doubles of few digits**: at most fifteen, of which at most twenty-two places stand after the
point and at most fifteen in front of it. -/
structure FewDigits (x : Float) : Prop where
  few : (shortest .toEven x).coefficient < 10 ^ 15
  places : -22 ≤ (shortest .toEven x).exponent
  small : (shortest .toEven x).toRat < 10 ^ 15

/-- **Counts of few digits stay**, zero among them. -/
theorem keepsCount_of_fewDigits {x : Float} (finite : x.isFinite = true) (digits : FewDigits x) :
    KeepsCount (.number (.double x)) := by
  have parted := finite
  rw [isFinite_eq] at parted
  cases h : parts x with
  | finite s m e pos => exact keepsCount_of_few h digits.few digits.places digits.small
  | zero s =>
    rintro n ⟨⟩
    have zero := beq_zero_iff.mpr ⟨s, h⟩
    obtain ⟨g, read, same⟩ := readNumber?_double finite
    rw [wordScalar?_of_readNumber? read, asCount_of_zero zero]
    apply asCount_of_zero
    split
    · rw [neg_beq_zero, same, zero]
    · rw [same, zero]
  | infinity s =>
    rw [h] at parted
    exact absurd parted Bool.false_ne_true
  | notANumber =>
    rw [h] at parted
    exact absurd parted Bool.false_ne_true

/-- **A count stays** exactly if it is kept. -/
theorem asCount_reread (h : reread room v = some w) :
    asCount (some w) = asCount (some v) ↔ KeepsCount v := by
  cases v with
  | number n =>
    have read : wordScalar? (writeNumber n) = some w := h
    constructor
    · rintro same n' e
      cases e
      rw [read, same]
    · intro keeps
      rw [← keeps n rfl, read]
  | array items =>
    refine iff_of_true ?_ (fun n e => by cases e)
    cases room with
    | zero => cases h
    | succ room =>
      obtain ⟨ws, -, rfl⟩ := Option.map_eq_some_iff.mp h
      rfl
  | object members =>
    refine iff_of_true ?_ (fun n e => by cases e)
    cases room with
    | zero => cases h
    | succ room =>
      obtain ⟨entries, -, rfl⟩ := Option.map_eq_some_iff.mp h
      rfl
  | null | bool | string =>
    cases h
    exact iff_of_true rfl (fun n e => by cases e)

end Values

/-! ## Members -/

section Members

variable {room : Nat} {members : List (String × Json)} {w : Json}
  (h : reread room (.object members) = some w) (key : String)
include h

/-- **The flags of an object stay** when it is read anew. -/
theorem asFlag_field?_reread (legible : Legible room (.object members)) :
    asFlag (w.field? key) = asFlag (Entries.get? key members) := by
  cases legible with
  | object once values =>
    obtain ⟨inner, entries, room, rfl, value⟩ := exists_entries_of_reread h once
    obtain rfl := Nat.succ_inj.mp room
    rcases value key with ⟨none, none'⟩ | ⟨v, w, hv, hw, read⟩
    · rw [field?, none, none']
    · have member := (Entries.mem_iff_get? once key v).mpr hv
      rw [field?, hv, hw, asFlag_reread (values _ member) read]

/-- **A count of an object stays** exactly if it is kept. -/
theorem asCount_field?_reread (once : (members.map Prod.fst).Nodup) :
    asCount (w.field? key) = asCount (Entries.get? key members) ↔
      ∀ v, Entries.get? key members = some v → v.KeepsCount := by
  obtain ⟨inner, entries, -, rfl, value⟩ := exists_entries_of_reread h once
  rcases value key with ⟨none, none'⟩ | ⟨v, w, hv, hw, read⟩
  · rw [field?, none, none']
    exact iff_of_true rfl (fun v hv => by cases hv)
  · rw [field?, hv, hw, asCount_reread read]
    exact ⟨fun keeps v' e => Option.some_inj.mp e ▸ keeps, fun keeps => keeps v rfl⟩

end Members

end CallMeter.Json
