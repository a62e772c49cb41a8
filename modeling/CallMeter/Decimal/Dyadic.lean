/-!
# Doubles as exact fractions

The magnitude of a finite double is `mantissa * 2 ^ exponent`, read off its bits. Exact
arithmetic on it decides every rounding to decimals and to whole numbers.

## Main definitions

* `Dyadic`, `Dyadic.ofFloat`: the exact magnitude of a finite double
* `isNegative`: the sign bit
* `Tie`, `roundDiv`: division of naturals rounded to the nearest whole number
* `nearest`: the whole number nearest to a double, a half going away from zero

## Main results

* `roundDiv_le`, `le_roundDiv`: a rounded quotient is within half a unit of the exact one
-/

namespace CallMeter.Decimal

/-- **Exact magnitude** of a finite double: `mantissa * 2 ^ exponent`. -/
structure Dyadic where
  mantissa : Nat
  exponent : Int

/-- The bits of a double below its sign and exponent. -/
def fraction (x : Float) : Nat :=
  x.toBits.toNat % (1 <<< 52)

/-- The exponent field of a double. -/
def exponentField (x : Float) : Nat :=
  (x.toBits.toNat >>> 52) % (1 <<< 11)

/-- The sign bit of a double, set also for negative zero. -/
def isNegative (x : Float) : Bool :=
  x.toBits.toNat >>> 63 == 1

/-- The magnitude of a finite double. -/
def Dyadic.ofFloat (x : Float) : Dyadic :=
  -- only doubles with an exponent field have a leading bit that is not stored
  if exponentField x == 0 then ⟨fraction x, -1074⟩
  else ⟨(1 <<< 52) + fraction x, (exponentField x : Int) - 1075⟩

/-- Numerator and denominator of a magnitude. -/
def Dyadic.ratio (d : Dyadic) : Nat × Nat :=
  (d.mantissa <<< d.exponent.toNat, 1 <<< (-d.exponent).toNat)

/-- Which way a value half-way between two neighbours goes. -/
inductive Tie
  | toEven
  | up
  deriving DecidableEq

/-- The whole number nearest to `num / den`. -/
def roundDiv (num den : Nat) (tie : Tie) : Nat :=
  let q := num / den
  let r := 2 * (num % den)
  if r < den then q
  else if den < r then q + 1
  else
    match tie with
    | .toEven => q + q % 2
    | .up => q + 1

/-- The whole number nearest to the magnitude of a finite double, a half going up. -/
def nearest (x : Float) : Nat :=
  let (num, den) := (Dyadic.ofFloat x).ratio
  roundDiv num den .up

theorem roundDiv_le (num den : Nat) (h : 0 < den) (tie : Tie) :
    2 * den * roundDiv num den tie ≤ 2 * num + den := by
  have e := Nat.div_add_mod num den
  have l := Nat.mod_lt num h
  have two : num / den % 2 ≤ 1 := by omega
  simp only [roundDiv]
  generalize num / den = q at *
  generalize num % den = r at *
  subst e
  have key : 2 * den * q = 2 * (den * q) := Nat.mul_assoc ..
  have key' : 2 * den * (q + 1) = 2 * (den * q) + 2 * den := by rw [Nat.mul_add, key]; omega
  split
  · omega
  split
  · omega
  have step : 2 * den * (q + q % 2) ≤ 2 * den * (q + 1) := Nat.mul_le_mul_left _ (by omega)
  cases tie <;> simp only <;> omega

theorem le_roundDiv (num den : Nat) (h : 0 < den) (tie : Tie) :
    2 * num ≤ 2 * den * roundDiv num den tie + den := by
  have e := Nat.div_add_mod num den
  have l := Nat.mod_lt num h
  simp only [roundDiv]
  generalize num / den = q at *
  generalize num % den = r at *
  subst e
  have key : 2 * den * q = 2 * (den * q) := Nat.mul_assoc ..
  have key' : 2 * den * (q + 1) = 2 * (den * q) + 2 * den := by rw [Nat.mul_add, key]; omega
  split
  · omega
  split
  · omega
  have step : 2 * den * q ≤ 2 * den * (q + q % 2) := Nat.mul_le_mul_left _ (by omega)
  cases tie <;> simp only <;> omega

end CallMeter.Decimal
