import CallMeter.Decimal.Digits

/-!
# Reading doubles from decimal text

A number is an optional sign, digits with an optional point among or around them, and an
optional exponent; the names of infinity and of no number are accepted in any case. The double
nearest to the exact value is chosen, so that values past the largest double become infinite.

## Main definitions

* `ofDecimal`: the double nearest to `m * 10 ^ e`
* `readFloat?`: the double that a text denotes
-/

namespace CallMeter.Decimal

/-- The double nearest to `m * 10 ^ e`. -/
def ofDecimal (m : Nat) (e : Int) : Float :=
  Float.ofScientific m (e < 0) e.natAbs

/-- The whole number that an exponent denotes, a sign allowed in front. -/
def readExponent? : List Char → Option Int
  | '-' :: r => (readNat? r).map fun n => -(n : Int)
  | '+' :: r => (readNat? r).map Int.ofNat
  | r => (readNat? r).map Int.ofNat

/-- The magnitude that digits, point and exponent denote. -/
def readMagnitude? (cs : List Char) : Option Float :=
  let whole := cs.takeWhile Char.isDigit
  let afterWhole := cs.dropWhile Char.isDigit
  let (fraction, rest) := match afterWhole with
    | '.' :: r => (r.takeWhile Char.isDigit, r.dropWhile Char.isDigit)
    | r => ([], r)
  if whole.isEmpty && fraction.isEmpty then none
  else
    let exponent? : Option Int := match rest with
      | [] => some 0
      | c :: r => if c == 'e' || c == 'E' then readExponent? r else none
    exponent?.map fun e => ofDecimal (value (whole ++ fraction)) (e - fraction.length)

/-- The magnitude that a text without sign denotes. -/
def readUnsigned? (cs : List Char) : Option Float :=
  match String.ofList (cs.map Char.toLower) with
  | "inf" => some (1.0 / 0.0)
  | "infinity" => some (1.0 / 0.0)
  | "nan" => some (0.0 / 0.0)
  | _ => readMagnitude? cs

/-- **Reading** a double: the nearest one to the value of the text. -/
def readFloat? (s : String) : Option Float :=
  match s.toList with
  | '-' :: r => (readUnsigned? r).map fun x => -x
  | '+' :: r => readUnsigned? r
  | r => readUnsigned? r

end CallMeter.Decimal
