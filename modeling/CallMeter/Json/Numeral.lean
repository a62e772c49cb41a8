import CallMeter.Decimal.Reader
import CallMeter.Json.Value

/-!
# JSON numerals

The grammar of number literals and the number a literal stands for. An integer literal that fits
64 bits stays an integer. Any other is a double that comes from a 64-bit significand: digits go
into it from left to right as long as it holds them, integer digits left out raise the exponent,
fraction digits taken in lower it, and one multiplication or division by a power of ten scales
the significand. Doubles obtained this way may differ in the last place from the nearest one.

## Main definitions

* `Numeral`, `Numeral.ofChars?`: a literal in its parts
* `absorb`: digits taken into a 64-bit significand
* `scale?`: a double scaled by a power of ten
* `Numeral.number?`: the number of a literal, none when it is too large

## Main results

* `absorb_of_lt`: a significand that holds all digits is their value
-/

namespace CallMeter.Json

/-- **Number literal**: sign, integer digits, fraction digits and exponent. -/
structure Numeral where
  negative : Bool
  whole : List Char
  fraction : List Char
  exponent : Option Int

/-- A fraction: a point and one or more digits, or nothing. -/
def readFraction? : List Char → Option (List Char × List Char)
  | '.' :: r =>
    let ds := r.takeWhile Char.isDigit
    if ds.isEmpty then none else some (ds, r.dropWhile Char.isDigit)
  | r => some ([], r)

/-- An exponent that ends the literal, or nothing. -/
def readScale? : List Char → Option (Option Int)
  | [] => some none
  | c :: r => if c == 'e' || c == 'E' then (Decimal.readExponent? r).map some else none

/-- The parts of a literal. Integer digits have no zero in front. -/
def Numeral.ofChars? (cs : List Char) : Option Numeral :=
  let (negative, unsigned) := match cs with
    | '-' :: r => (true, r)
    | r => (false, r)
  let whole := unsigned.takeWhile Char.isDigit
  if whole.isEmpty || (whole.head? == some '0' && whole != ['0']) then none
  else do
    let (fraction, rest) ← readFraction? (unsigned.dropWhile Char.isDigit)
    let exponent ← readScale? rest
    return ⟨negative, whole, fraction, exponent⟩

/-- Digits taken into a 64-bit significand, and the number of those left out. -/
def absorb (s : Nat) : List Char → Nat × Nat
  | [] => (s, 0)
  | d :: ds =>
    let next := 10 * s + (d.toNat - '0'.toNat)
    if next < UInt64.size then absorb next ds else (s, ds.length + 1)

/-- The double nearest to a power of ten. -/
def powerOfTen (k : Nat) : Float :=
  Float.ofScientific 1 false k

/-- A non-negative double times `10 ^ e`, none when the result is infinite. Two divisions by
`10 ^ 308` bring every 64-bit significand to zero. -/
def scale? (f : Float) (e : Int) : Option Float :=
  if e < -308 then
    -- powers of ten past the largest double take two steps
    let g := f / powerOfTen 308
    if e + 308 < -308 then some (g / powerOfTen 308)
    else some (g / powerOfTen (-(e + 308)).toNat)
  else if e < 0 then some (f / powerOfTen (-e).toNat)
  else if f == 0.0 then some f
  else if e ≤ 308 then
    let g := f * powerOfTen e.toNat
    if g.isFinite then some g else none
  else none

/-- **The number** a literal stands for. -/
def Numeral.number? (l : Numeral) : Option Number :=
  let (s, ignored) := absorb 0 l.whole
  let sign (x : Float) : Float := if l.negative then -x else x
  if l.fraction.isEmpty && l.exponent.isNone && ignored == 0 then
    -- minus zero and what lies below the smallest integer are doubles
    if !l.negative then some (.natural (UInt64.ofNat s))
    else if 0 < s && s ≤ UInt64.size / 2 then some (.negative (UInt64.ofNat s))
    else some (.double (sign (UInt64.ofNat s).toFloat))
  else
    -- fraction digits still go in one by one after integer digits were left out
    let (s, unused) := absorb s l.fraction
    let e := l.exponent.getD 0 + ignored - ((l.fraction.length - unused : Nat) : Int)
    (scale? (UInt64.ofNat s).toFloat e).map fun x => .double (sign x)

/-- The number that a text denotes by the grammar of JSON. -/
def readNumber? (cs : List Char) : Option Number := do
  (← Numeral.ofChars? cs).number?

theorem absorb_of_lt (ds : List Char) : ∀ s : Nat, Nat.ofDigitChars 10 ds s < UInt64.size →
    absorb s ds = (Nat.ofDigitChars 10 ds s, 0) := by
  induction ds with
  | nil => intro s _; simp [absorb]
  | cons d ds ih =>
    intro s h
    rw [Nat.ofDigitChars_cons] at h ⊢
    have mono : ∀ (l : List Char) (a : Nat), a ≤ Nat.ofDigitChars 10 l a := by
      intro l
      induction l with
      | nil => simp
      | cons c l ihl => intro a; rw [Nat.ofDigitChars_cons]; exact Nat.le_trans (by omega) (ihl _)
    have := mono ds (10 * s + (d.toNat - '0'.toNat))
    rw [absorb, if_pos (by omega), ih _ h]

end CallMeter.Json
