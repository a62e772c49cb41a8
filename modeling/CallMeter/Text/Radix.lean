/-!
# Digits in other bases

Digits up to the base sixteen, in either case, and the characters that escapes with such digits
denote. A surrogate is no character; two of them make one.

## Main definitions

* `hexDigit?`, `isDigitOf`, `valueIn`: digits and the number they spell
* `readIn?`: the number that a run of digits denotes
* `character?`: the character with a code point
* `joinSurrogates?`: the character that a pair of surrogates stands for
-/

namespace CallMeter.Text

/-- The value of a hexadecimal digit. -/
def hexDigit? (c : Char) : Option Nat :=
  if c.isDigit then some (c.toNat - '0'.toNat)
  else if 'a' ≤ c && c ≤ 'f' then some (c.toNat - 'a'.toNat + 10)
  else if 'A' ≤ c && c ≤ 'F' then some (c.toNat - 'A'.toNat + 10)
  else none

/-- The digits of a base. -/
def isDigitOf (base : Nat) (c : Char) : Bool :=
  match hexDigit? c with
  | some d => d < base
  | none => false

/-- The value of digits in a base. -/
def valueIn (base : Nat) (ds : List Char) : Nat :=
  ds.foldl (fun n c => base * n + (hexDigit? c).getD 0) 0

/-- The number that a text of one or more digits in a base denotes. -/
def readIn? (base : Nat) (cs : List Char) : Option Nat :=
  if !cs.isEmpty && cs.all (isDigitOf base) then some (valueIn base cs) else none

/-- The character with a code point. -/
def character? (n : Nat) : Option Char :=
  if n < 0xD800 ∨ (0xDFFF < n ∧ n < 0x110000) then some (Char.ofNat n) else none

/-- The character with the code point that hexadecimal digits denote. -/
def hexCharacter? (digits : List Char) : Option Char := do
  character? (← readIn? 16 digits)

/-- The character that a leading and a trailing surrogate stand for. -/
def joinSurrogates? (high low : Nat) : Option Char :=
  if 0xD800 ≤ high ∧ high ≤ 0xDBFF ∧ 0xDC00 ≤ low ∧ low ≤ 0xDFFF then
    character? (0x10000 + (high - 0xD800) * 0x400 + (low - 0xDC00))
  else none

end CallMeter.Text
