/-!
# Counters

Counters have 64 bits and stay at the largest value instead of starting over.

## Main definitions

* `Counter.add`: the saturating sum
* `Counter.ofNat`: a natural number, at most the largest counter

## Main results

* `toNat_add`: the sum is exact up to the largest counter
* `add_ofNat`, `ofNat_add`: sums may stop at the largest counter at any time
-/

namespace CallMeter.Counter

/-- The largest counter. -/
def limit : Nat := UInt64.size - 1

/-- The counter of a natural number, at most the largest. -/
def ofNat (n : Nat) : UInt64 :=
  UInt64.ofNat (min n limit)

/-- **Saturating sum**. -/
def add (a b : UInt64) : UInt64 :=
  ofNat (a.toNat + b.toNat)

@[simp] theorem toNat_ofNat (n : Nat) : (ofNat n).toNat = min n limit := by
  rw [ofNat, UInt64.toNat_ofNat', Nat.mod_eq_of_lt]
  exact Nat.lt_of_le_of_lt (Nat.min_le_right n limit) (by decide)

@[simp] theorem toNat_add (a b : UInt64) : (add a b).toNat = min (a.toNat + b.toNat) limit :=
  toNat_ofNat _

/-- A sum that stayed at the largest counter goes on as the exact sum would. -/
theorem add_ofNat (n : Nat) (c : UInt64) : add (ofNat n) c = ofNat (n + c.toNat) := by
  apply UInt64.toNat_inj.mp
  rw [toNat_add, toNat_ofNat, toNat_ofNat]
  omega

/-- The counter of a sum is the saturating sum of the counters. -/
theorem ofNat_add (m n : Nat) : ofNat (m + n) = add (ofNat m) (ofNat n) := by
  apply UInt64.toNat_inj.mp
  rw [toNat_add, toNat_ofNat, toNat_ofNat, toNat_ofNat]
  omega

end CallMeter.Counter
