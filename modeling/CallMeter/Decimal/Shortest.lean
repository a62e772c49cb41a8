import CallMeter.Decimal.Digits
import CallMeter.Decimal.Dyadic

/-!
# Shortest digits

The shortest decimal that reads back as a given double. The reals that round to a double form
an interval around it, ends included when its mantissa is even. On the decimal grid of one digit,
then two and so on up to seventeen, the two neighbours of the double are tried; the first grid
with a neighbour in the interval wins, and of two such neighbours the nearer.

## Main definitions

* `Scientific`: a decimal `coefficient * 10 ^ exponent`
* `Neighbourhood`: a double and the interval that rounds to it, over one denominator
* `shortest`: the shortest decimal of a finite non-zero double
-/

namespace CallMeter.Decimal

/-- A positive decimal `coefficient * 10 ^ exponent`. -/
structure Scientific where
  coefficient : Nat
  exponent : Int

/-- **Rounding interval**: the double is `middle / den` and the reals between `low / den` and
`high / den` round to it. -/
structure Neighbourhood where
  low : Nat
  middle : Nat
  high : Nat
  den : Nat
  closed : Bool

/-- The interval of reals that round to the magnitude of a finite double. Below a power of two
the neighbouring doubles stand twice as close. -/
def Neighbourhood.ofFloat (x : Float) : Neighbourhood :=
  let d := Dyadic.ofFloat x
  -- counted in quarters of the last place, so that the ends are whole numbers
  let unit := 1 <<< (d.exponent - 2).toNat
  let gap := if fraction x == 0 && 1 < exponentField x then 1 else 2
  { low := (4 * d.mantissa - gap) * unit
    middle := 4 * d.mantissa * unit
    high := (4 * d.mantissa + 2) * unit
    den := 1 <<< (2 - d.exponent).toNat
    closed := d.mantissa % 2 == 0 }

namespace Neighbourhood

variable (i : Neighbourhood)

/-- The decimal `c * 10 ^ k` lies in the interval. -/
def holds (c : Nat) (k : Int) : Bool :=
  let point := c * Nat.pow 10 k.toNat * i.den
  let scale := Nat.pow 10 (-k).toNat
  if i.closed then i.low * scale ≤ point && point ≤ i.high * scale
  else i.low * scale < point && point < i.high * scale

/-- The exponent of the first decimal digit. -/
def leading : Int :=
  if i.den ≤ i.middle then ((digits (i.middle / i.den)).length : Int) - 1
  else
    -- below one the digits of the inverse, rounded up, tell the zeros after the point
    let inverse := (i.den + i.middle - 1) / i.middle
    if inverse ≤ 1 then 0 else -((digits (inverse - 1)).length : Int)

/-- The largest `c` with `c * 10 ^ k` not above the double. -/
def floor (k : Int) : Nat :=
  i.middle * Nat.pow 10 (-k).toNat / (i.den * Nat.pow 10 k.toNat)

/-- The nearer of `c` and `c + 1` on the grid of `10 ^ k`. -/
def nearer (tie : Tie) (c : Nat) (k : Int) : Nat :=
  let twice := 2 * i.middle * Nat.pow 10 (-k).toNat
  let between := (2 * c + 1) * (i.den * Nat.pow 10 k.toNat)
  if twice < between then c
  else if between < twice then c + 1
  else
    match tie with
    | .toEven => c + c % 2
    | .up => c + 1

/-- The decimal of `places` digits that reads back as the double, if there is one. -/
def onGrid (tie : Tie) (places : Nat) : Option Scientific :=
  let k := i.leading - ((places : Int) - 1)
  let c := i.floor k
  -- if any point of the grid lies in the interval, one of these two does
  match i.holds c k, i.holds (c + 1) k with
  | true, true => some ⟨i.nearer tie c k, k⟩
  | true, false => some ⟨c, k⟩
  | false, true => some ⟨c + 1, k⟩
  | false, false => none

end Neighbourhood

/-- **Shortest decimal** that reads back as the magnitude of a finite non-zero double. Seventeen
digits always suffice. -/
def shortest (tie : Tie) (x : Float) : Scientific :=
  let i := Neighbourhood.ofFloat x
  ((List.range 17).findSome? fun n => i.onGrid tie (n + 1)).getD
    ⟨i.floor (i.leading - 16), i.leading - 16⟩

end CallMeter.Decimal
