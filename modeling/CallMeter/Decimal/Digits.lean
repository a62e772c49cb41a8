/-!
# Decimal digits

Natural numbers as decimal text. A number is written without leading zeros and read from any
non-empty run of the digits `0` to `9`.

## Main definitions

* `digits`, `padded`: the decimal text of a number, plain and with leading zeros
* `readNat?`, `readWord?`: the number a text denotes, without bound and below `2 ^ 64`

## Main results

* `readNat?_digits`: a written number reads back
-/

namespace CallMeter.Decimal

/-- The decimal digits of a number, most significant first. -/
def digits (n : Nat) : List Char :=
  Nat.toDigits 10 n

/-- The decimal text of a number. -/
def text (n : Nat) : String :=
  String.ofList (digits n)

/-- The decimal digits of a number with zeros in front up to `width` characters. -/
def padded (width n : Nat) : List Char :=
  List.replicate (width - (digits n).length) '0' ++ digits n

/-- The number denoted by a run of digits. -/
def value (cs : List Char) : Nat :=
  Nat.ofDigitChars 10 cs 0

/-- The number that a text of one or more digits denotes. -/
def readNat? (cs : List Char) : Option Nat :=
  if !cs.isEmpty && cs.all Char.isDigit then some (value cs) else none

/-- The number below `2 ^ 64` that a text denotes, a plus sign allowed in front. -/
def readWord? (cs : List Char) : Option UInt64 :=
  let digits := match cs with
    | '+' :: r => r
    | _ => cs
  match readNat? digits with
  | some n => if n < UInt64.size then some (UInt64.ofNat n) else none
  | none => none

/-- The digits of a run without the zeros at its end. -/
def stripZeros (cs : List Char) : List Char :=
  (cs.reverse.dropWhile (· == '0')).reverse

@[simp] theorem value_digits (n : Nat) : value (digits n) = n :=
  Nat.ofDigitChars_ten_toDigits

theorem isDigit_of_mem_digits {n : Nat} {c : Char} (h : c ∈ digits n) : c.isDigit = true :=
  Nat.isDigit_of_mem_toDigits (by decide) (by decide) h

theorem digits_ne_nil (n : Nat) : digits n ≠ [] :=
  Nat.toDigits_ne_nil

@[simp] theorem readNat?_digits (n : Nat) : readNat? (digits n) = some n := by
  have h : (digits n).all Char.isDigit = true :=
    List.all_eq_true.mpr fun _ hc => isDigit_of_mem_digits hc
  simp [readNat?, h, digits_ne_nil]

end CallMeter.Decimal
