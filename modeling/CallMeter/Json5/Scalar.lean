import CallMeter.Decimal.Reader
import CallMeter.Settings.Tree
import CallMeter.Text.Blank
import CallMeter.Text.Radix

/-!
# JSON5 scalars

Words and strings. A word is a literal name or a number; a number may have a sign in front, lack
digits on one side of its point, or be hexadecimal. Strings stand in quotes of either kind and may
go on after a backslash at the end of a line.

## Main definitions

* `scalarOf?`: the scalar that a word spells
* `readString?`: the rest of a string after its opening quote
-/

namespace CallMeter.Json5

/-- Characters that end a line. -/
def isBreak (c : Char) : Bool :=
  c == '\n' || c == '\r' || c == '\u2028' || c == '\u2029'

/-- Blanks between tokens. -/
def isGap (c : Char) : Bool :=
  (Text.isSpace c && c != '\u0085') || c == '\uFEFF'

/-- The integer digits of a number: none, a single zero, or digits without a zero in front. -/
def isWhole (ds : List Char) : Bool :=
  ds.all Char.isDigit && (ds.head? != some '0' || ds == ['0'])

/-- A number with a point or an exponent, no larger than the largest double. -/
def readReal? (word : List Char) : Option Setting :=
  let unsigned := match word with
    | '+' :: r => r
    | '-' :: r => r
    | r => r
  if isWhole (unsigned.takeWhile Char.isDigit) && unsigned.any Char.isDigit then do
    let x ← Decimal.readFloat? (String.ofList word)
    if x.isFinite then some (.real x) else none
  else none

/-- A number without a point or an exponent. -/
def readInteger? (word : List Char) : Option Setting :=
  let read (ds : List Char) : Option Int :=
    if isWhole ds then (Decimal.readNat? ds).map Int.ofNat else none
  let n? := match word with
    | '+' :: r => read r
    | '-' :: r => (read r).map fun n => -n
    | r => read r
  n?.bind Setting.ofInt?

/-- A hexadecimal number of 32 bits. -/
def readHex? (ds : List Char) : Option Setting :=
  ((Text.readIn? 16 ds).filter (· < UInt32.size)).map fun n => .integer n

/-- **The scalar** that a word spells. -/
def scalarOf? (word : List Char) : Option Setting :=
  match String.ofList word with
  | "null" => some .absent
  | "true" => some (.flag true)
  | "false" => some (.flag false)
  | "Infinity" => some (.real (1.0 / 0.0))
  | "-Infinity" => some (.real (-1.0 / 0.0))
  | "NaN" => some (.real (0.0 / 0.0))
  | "-NaN" => some (.real (0.0 / 0.0))
  | _ =>
    match word with
    | '0' :: 'x' :: ds => readHex? ds
    | '0' :: 'X' :: ds => readHex? ds
    | _ =>
      if word.any fun c => c == '.' || c == 'e' || c == 'E' then readReal? word
      else readInteger? word

/-- Characters of words. -/
def isWordChar (c : Char) : Bool :=
  c.isAlphanum || c == '+' || c == '-' || c == '.'

/-- The character of a one-letter escape: most characters stand for themselves. -/
def shortEscape? (c : Char) : Option Char :=
  match c with
  | 'b' => some '\x08'
  | 'f' => some '\x0c'
  | 'n' => some '\n'
  | 'r' => some '\r'
  | 't' => some '\t'
  | 'v' => some '\x0b'
  | 'x' => none
  | 'u' => none
  | c => if c.isDigit then none else some c

/-- **The rest of a string** after its opening quote. -/
def readString? (quote : Char) (rev : List Char) : List Char → Option (String × List Char)
  | [] => none
  | '\\' :: '\r' :: '\n' :: r => readString? quote rev r
  | '\\' :: 'x' :: a :: b :: r => do readString? quote ((← Text.hexCharacter? [a, b]) :: rev) r
  | '\\' :: 'u' :: a :: b :: c :: d :: '\\' :: 'u' :: e :: f :: g :: h :: r => do
    let n ← Text.readIn? 16 [a, b, c, d]
    match Text.character? n with
    | some x => readString? quote (x :: rev) ('\\' :: 'u' :: e :: f :: g :: h :: r)
    | none =>
      readString? quote ((← Text.joinSurrogates? n (← Text.readIn? 16 [e, f, g, h])) :: rev) r
  | '\\' :: 'u' :: a :: b :: c :: d :: r => do
    readString? quote ((← Text.hexCharacter? [a, b, c, d]) :: rev) r
  | '\\' :: '0' :: r =>
    if (r.head?.map Char.isDigit).getD false then none else readString? quote ('\x00' :: rev) r
  | '\\' :: c :: r =>
    if isBreak c then readString? quote rev r
    else do readString? quote ((← shortEscape? c) :: rev) r
  | c :: r =>
    if c == quote then some (String.ofList rev.reverse, r)
    else if isBreak c || c == '\\' then none
    else readString? quote (c :: rev) r
termination_by cs => cs.length

end CallMeter.Json5
