import CallMeter.Decimal.Reader
import CallMeter.Settings.Tree
import CallMeter.Text.Radix

/-!
# RON scalars

Numbers, characters and strings. Integers may be binary, octal or hexadecimal, and underscores
may stand among the digits. Strings come with escapes, or raw between as many number signs at
their end as at their start.

## Main definitions

* `readNumber?`: a number and what follows
* `readString?`, `readRaw?`, `readChar?`: strings and characters
-/

namespace CallMeter.Ron

/-- Characters of integers and of numbers with a fraction or an exponent. -/
def isIntegerChar (c : Char) : Bool :=
  (Text.hexDigit? c).isSome || c == '_'

def isRealChar (c : Char) : Bool :=
  c.isDigit || c == 'e' || c == 'E' || c == '.' || c == '+' || c == '-' || c == '_'

/-- The magnitude of an integer with its base in front. -/
def readMagnitude? (cs : List Char) : Option Nat :=
  let read (base : Nat) (ds : List Char) : Option Nat :=
    -- an underscore may not come first
    if ds.head? == some '_' then none else Text.readIn? base (ds.filter (· != '_'))
  match cs with
  | '0' :: 'x' :: r => read 16 r
  | '0' :: 'o' :: r => read 8 r
  | '0' :: 'b' :: r => read 2 r
  | _ => read 10 cs

/-- An integer, or the nearest double where it does not fit 64 bits with a sign. -/
def integerOf? (negative : Bool) (cs : List Char) : Option Setting := do
  let n ← readMagnitude? cs
  let n : Int := if negative then -n else n
  match Setting.ofInt? n with
  | some s => return s
  | none => if 0 ≤ n ∧ n < UInt64.size then some (.real (Decimal.ofDecimal n.toNat 0)) else none

/-- The text of an integer: its base, and digits of any base. -/
def splitInteger : List Char → List Char × List Char
  | '0' :: b :: r =>
    if b == 'x' || b == 'o' then
      ('0' :: b :: r.takeWhile isIntegerChar, r.dropWhile isIntegerChar)
    else ('0' :: (b :: r).takeWhile isIntegerChar, (b :: r).dropWhile isIntegerChar)
  | cs => (cs.takeWhile isIntegerChar, cs.dropWhile isIntegerChar)

/-- **A number** and what follows. -/
def readNumber? (cs : List Char) : Option (Setting × List Char) :=
  let (negative, r) := match cs with
    | '-' :: r => (true, r)
    | '+' :: r => (false, r)
    | r => (false, r)
  let real := r.takeWhile isRealChar
  let (integer, rest) := splitInteger r
  if real.length ≤ integer.length then
    match integerOf? negative integer with
    | some s => some (s, rest)
    -- the letter of an exponent is a digit of integers, too
    | none => do
      let x ← Decimal.readFloat? (String.ofList (real.filter (· != '_')))
      if real.all Char.isDigit then none
      return (.real (if negative then -x else x), r.dropWhile isRealChar)
  else do
    if real.head? == some '_' then none
    let x ← Decimal.readFloat? (String.ofList (real.filter (· != '_')))
    return (.real (if negative then -x else x), r.dropWhile isRealChar)

/-- The character of an escape and what follows. -/
def readEscape? : List Char → Option (Char × List Char)
  | '\x27' :: r => some ('\x27', r)
  | '"' :: r => some ('"', r)
  | '\\' :: r => some ('\\', r)
  | 'n' :: r => some ('\n', r)
  | 'r' :: r => some ('\r', r)
  | 't' :: r => some ('\t', r)
  | '0' :: r => some ('\x00', r)
  | 'x' :: a :: b :: r => (Text.hexCharacter? [a, b]).map fun c => (c, r)
  | 'u' :: '{' :: r =>
    let ds := r.takeWhile (· != '}')
    if ds.length ≤ 6 then (Text.hexCharacter? ds).map fun c => (c, (r.drop ds.length).tail)
    else none
  | _ => none

/-- The rest of a string with escapes after its opening quote, with a bound on its length. -/
def readString? : (fuel : Nat) → List Char → List Char → Option (String × List Char)
  | 0, _, _ => none
  | fuel + 1, rev, cs =>
    match cs with
    | [] => none
    | '"' :: r => some (String.ofList rev.reverse, r)
    | '\\' :: r => do
      let (c, r) ← readEscape? r
      readString? fuel (c :: rev) r
    | c :: r => readString? fuel (c :: rev) r

/-- The rest of a raw string after its opening quote: it ends at a quote with `signs` number
signs. -/
def readRaw? (signs : Nat) (rev : List Char) : List Char → Option (String × List Char)
  | [] => none
  | c :: r =>
    if c == '"' && (r.take signs) == List.replicate signs '#' then
      some (String.ofList rev.reverse, r.drop signs)
    else readRaw? signs (c :: rev) r

/-- The rest of a character after its opening quote. -/
def readChar? : List Char → Option (String × List Char)
  | '\\' :: r =>
    match readEscape? r with
    | some (c, '\x27' :: r) => some (String.singleton c, r)
    | _ => none
  | c :: '\x27' :: r => if c == '\x27' then none else some (String.singleton c, r)
  | _ => none

end CallMeter.Ron
