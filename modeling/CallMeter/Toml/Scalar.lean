import CallMeter.Decimal.Reader
import CallMeter.Settings.Tree
import CallMeter.Text.Radix
import CallMeter.Time.Timestamp

/-!
# TOML scalars

Booleans, numbers, and dates and times. Underscores may separate the digits of a number.
Integers have 64 bits and may be hexadecimal, octal or binary. Dates and times are kept as text
in their canonical form.

## Main definitions

* `readInteger?`, `readReal?`: numbers
* `readMoment?`: dates and times
* `readScalar?`: a scalar of any kind and what follows
-/

namespace CallMeter.Toml

/-- Digits with single underscores between them, without the underscores. -/
def readDigits? (isDigit : Char → Bool) : List Char → Option (List Char)
  | [] => none
  | [c] => if isDigit c then some [c] else none
  | c :: '_' :: r => if isDigit c then (readDigits? isDigit r).map (c :: ·) else none
  | c :: r => if isDigit c then (readDigits? isDigit r).map (c :: ·) else none

/-- A sign and what follows. -/
def readSign : List Char → Bool × List Char
  | '-' :: r => (true, r)
  | '+' :: r => (false, r)
  | r => (false, r)

/-- Decimal digits without a zero in front. -/
def readWhole? (cs : List Char) : Option (List Char) := do
  let ds ← readDigits? Char.isDigit cs
  if ds.head? == some '0' && ds != ['0'] then none else some ds

/-- **An integer**. -/
def readInteger? (cs : List Char) : Option Setting :=
  let based (base : Nat) (r : List Char) : Option Setting := do
    Setting.ofInt? (Text.valueIn base (← readDigits? (Text.isDigitOf base) r))
  match cs with
  | '0' :: 'x' :: r => based 16 r
  | '0' :: 'o' :: r => based 8 r
  | '0' :: 'b' :: r => based 2 r
  | _ => do
    let (negative, r) := readSign cs
    let n := Decimal.value (← readWhole? r)
    Setting.ofInt? (if negative then -n else n)

/-- An exponent with its letter and sign, without underscores. -/
def readExponent? : List Char → Option (List Char)
  | [] => some []
  | c :: r =>
    if c == 'e' || c == 'E' then
      let (negative, ds) := readSign r
      (readDigits? Char.isDigit ds).map fun ds => 'e' :: (if negative then '-' else '+') :: ds
    else none

/-- The part of a number after the digits in front of its point. -/
def readFraction? : List Char → Option (List Char)
  | '.' :: r => do
    let isFraction := fun c : Char => c.isDigit || c == '_'
    let ds ← readDigits? Char.isDigit (r.takeWhile isFraction)
    let e ← readExponent? (r.dropWhile isFraction)
    return '.' :: ds ++ e
  | r => readExponent? r

/-- **A number with a fraction or an exponent**, or one of the special numbers. Past the largest
double there are only negative numbers. -/
def readReal? (cs : List Char) : Option Setting := do
  let (negative, r) := readSign cs
  let isWhole := fun c : Char => c.isDigit || c == '_'
  let magnitude ←
    if r == ['i', 'n', 'f'] || r == ['n', 'a', 'n'] then Decimal.readFloat? (String.ofList r)
    else do
      let whole ← readWhole? (r.takeWhile isWhole)
      let rest ← readFraction? (r.dropWhile isWhole)
      if rest.isEmpty then none
      let x ← Decimal.readFloat? (String.ofList (whole ++ rest))
      if x.isFinite || negative then some x else none
  return .real (if negative then -magnitude else magnitude)

/-- Nanoseconds as a fraction without zeros at its end. -/
def fractionText (nanos : Nat) : List Char :=
  if nanos == 0 then [] else '.' :: Decimal.stripZeros (Decimal.padded 9 nanos)

/-- A date in canonical form. -/
def dateText (d : Time.Date) : List Char :=
  Decimal.padded 4 d.year.toNat ++ '-' :: Decimal.padded 2 d.month ++
    '-' :: Decimal.padded 2 d.day

/-- A time of day in canonical form. -/
def timeText (second nanos : Nat) : List Char :=
  let leap := if 1000000000 ≤ nanos then 1 else 0
  Decimal.padded 2 (second / 3600) ++ ':' :: Decimal.padded 2 (second / 60 % 60) ++
    ':' :: Decimal.padded 2 (second % 60 + leap) ++ fractionText (nanos % 1000000000)

/-- An offset in canonical form. -/
def offsetText (cs : List Char) : Option (List Char) :=
  match cs, Time.readOffset? cs with
  | [], _ => some []
  | _, some (offset, []) =>
    -- one letter stands for no offset and keeps its own form
    if cs.length == 1 then some ['Z']
    else
      let minutes := offset.natAbs / 60
      some ((if offset < 0 then '-' else '+') :: Decimal.padded 2 (minutes / 60) ++
        ':' :: Decimal.padded 2 (minutes % 60))
  | _, _ => none

/-- **A date, a time, or both**, with an offset only after both. -/
def readMoment? (cs : List Char) : Option Setting :=
  let text := match Time.readDate? cs with
    | some (date, []) => some (dateText date)
    | some (date, r) => do
      let ((second, nanos), r) ← Time.readTime? (← Time.readSeparator? r)
      return dateText date ++ 'T' :: timeText second nanos ++ (← offsetText r)
    | none =>
      match Time.readTime? cs with
      | some ((second, nanos), []) => some (timeText second nanos)
      | _ => none
  text.map fun cs => .text (String.ofList cs)

/-- Characters of scalars. -/
def isScalarChar (c : Char) : Bool :=
  c.isAlphanum || c == '+' || c == '-' || c == '_' || c == '.' || c == ':'

/-- The scalar that a word spells. -/
def scalarOf? (word : List Char) : Option Setting :=
  match String.ofList word with
  | "true" => some (.flag true)
  | "false" => some (.flag false)
  | _ => (readInteger? word).or ((readReal? word).or (readMoment? word))

/-- The end of the word of a scalar. A date may be parted from its time by a blank. -/
def splitScalar (cs : List Char) : List Char × List Char :=
  let word := cs.takeWhile isScalarChar
  match Time.readDate? word, cs.dropWhile isScalarChar with
  | some (_, []), ' ' :: d :: r =>
    if d.isDigit then
      (word ++ ' ' :: (d :: r).takeWhile isScalarChar, (d :: r).dropWhile isScalarChar)
    else (word, ' ' :: d :: r)
  | _, r => (word, r)

/-- **A scalar** and what follows. -/
def readScalar? (cs : List Char) : Option (Setting × List Char) :=
  let (word, r) := splitScalar cs
  (scalarOf? word).map fun s => (s, r)

end CallMeter.Toml
