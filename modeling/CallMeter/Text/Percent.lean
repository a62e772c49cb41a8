import CallMeter.Text.Split
import CallMeter.Text.Utf8

/-!
# Percent-encoding

A percent sign and two hexadecimal digits stand for one byte. Decoding keeps everything else,
malformed escapes included. In a form-encoded query a plus sign is a space, fields are separated
by `&`, and the first `=` of a field ends its name.

## Main definitions

* `Percent.decode`: the bytes of a percent-encoded text
* `Percent.encode`: a text with every byte escaped
* `Percent.formFields`: the fields of a form-encoded query
-/

namespace CallMeter.Text.Percent

/-- The value of a hexadecimal digit, in either case. -/
def hexValue? (n : Nat) : Option Nat :=
  if 0x30 ≤ n ∧ n ≤ 0x39 then some (n - 0x30)
  else if 0x41 ≤ n ∧ n ≤ 0x46 then some (n - 0x41 + 10)
  else if 0x61 ≤ n ∧ n ≤ 0x66 then some (n - 0x61 + 10)
  else none

/-- The bytes that a byte sequence with percent escapes stands for. -/
def decodeBytes : List UInt8 → List UInt8
  | [] => []
  | [b] => [b]
  | [b, c] => [b, c]
  | b :: h :: l :: r =>
    if b == 0x25 then
      match hexValue? h.toNat, hexValue? l.toNat with
      | some x, some y => UInt8.ofNat (16 * x + y) :: decodeBytes r
      | _, _ => b :: decodeBytes (h :: l :: r)
    else b :: decodeBytes (h :: l :: r)

/-- **Decoding**: the bytes of a percent-encoded text. -/
def decode (cs : List Char) : List UInt8 :=
  decodeBytes (Utf8.encode (String.ofList cs))

/-- The digit of a value below sixteen, in upper case. -/
def hexDigit (n : Nat) : Char :=
  if n < 10 then Char.ofNat (0x30 + n) else Char.ofNat (0x41 + (n - 10))

/-- The escape of one byte. -/
def encodeByte (b : UInt8) : List Char :=
  ['%', hexDigit (b.toNat / 16), hexDigit (b.toNat % 16)]

/-- **Encoding**: a text with every byte escaped. -/
def encode (s : String) : List Char :=
  (Utf8.encode s).flatMap encodeByte

/-- One name or value of a form-encoded query; ill-formed bytes are replaced. -/
def formText (cs : List Char) : String :=
  Utf8.decodeLossy (decode (cs.map fun c => if c == '+' then ' ' else c))

/-- **Form fields**: the names and values of a query in order. Empty fields do not count, and a
field without `=` has an empty value. -/
def formFields (query : List Char) : List (String × String) :=
  ((splitOn '&' query).filter fun field => !field.isEmpty).map fun field =>
    let (name, value) := cut '=' field
    (formText name, formText (value.getD []))

end CallMeter.Text.Percent
