import CallMeter.Decimal.Layout
import CallMeter.Json.Value

/-!
# Writing JSON

Values as text, in one line without blanks or with one member or item a line. Strings escape
the quote, the backslash and control characters and nothing else. Doubles have their shortest
digits and always a fraction or an exponent; one that is not finite is written `null`.

## Main definitions

* `escapeChar`, `quoted`: strings as text
* `doubleLayout`: the decimal layout of doubles
* `compact`, `pretty`: a value in one line, and spread over lines
-/

namespace CallMeter.Json

/-- Digit of a value below sixteen, in lower case. -/
def hexDigit (n : Nat) : Char :=
  if n < 10 then Char.ofNat (0x30 + n) else Char.ofNat (0x61 + (n - 10))

/-- A character as it stands in a string. -/
def escapeChar (c : Char) : List Char :=
  if c == '"' then ['\\', '"']
  else if c == '\\' then ['\\', '\\']
  else if c == '\x08' then ['\\', 'b']
  else if c == '\x0c' then ['\\', 'f']
  else if c == '\n' then ['\\', 'n']
  else if c == '\r' then ['\\', 'r']
  else if c == '\t' then ['\\', 't']
  else if c.toNat < 0x20 then
    ['\\', 'u', '0', '0', hexDigit (c.toNat / 16), hexDigit (c.toNat % 16)]
  else [c]

/-- A string in quotes. -/
def quoted (s : String) : List Char :=
  '"' :: (s.toList.flatMap escapeChar ++ ['"'])

/-- **Doubles** have an exponent below `1e-5` and from `1e16` on. -/
def doubleLayout : Decimal.Layout where
  positional e := -5 ≤ e ∧ e ≤ 15
  keepFraction := true
  tie := .toEven

/-- A number. -/
def writeNumber : Number → List Char
  | .natural n => Decimal.digits n.toNat
  | .negative m => '-' :: Decimal.digits m.toNat
  | .double x => if x.isFinite then (doubleLayout.render x).toList else "null".toList

mutual

/-- A value in one line. -/
def write : Json → List Char
  | .null => "null".toList
  | .bool b => if b then "true".toList else "false".toList
  | .number n => writeNumber n
  | .string s => quoted s
  | .array items => '[' :: (writeItems items ++ [']'])
  | .object members => '{' :: (writeMembers members ++ ['}'])

/-- The items of an array. -/
def writeItems : List Json → List Char
  | [] => []
  | v :: r => write v ++ writeMoreItems r

/-- The items of an array after the first. -/
def writeMoreItems : List Json → List Char
  | [] => []
  | v :: r => ',' :: (write v ++ writeMoreItems r)

/-- The members of an object. -/
def writeMembers : List (String × Json) → List Char
  | [] => []
  | (k, v) :: r => quoted k ++ ':' :: (write v ++ writeMoreMembers r)

/-- The members of an object after the first. -/
def writeMoreMembers : List (String × Json) → List Char
  | [] => []
  | (k, v) :: r => ',' :: (quoted k ++ ':' :: (write v ++ writeMoreMembers r))

end

/-- **Compact text** of a value. -/
def compact (v : Json) : String :=
  String.ofList (write v)

/-- The start of a line at a depth of nesting. -/
def newLine (depth : Nat) : List Char :=
  '\n' :: List.replicate (2 * depth) ' '

mutual

/-- A value spread over lines, its own brackets at `depth`. -/
def spread (depth : Nat) : Json → List Char
  | .array [] => "[]".toList
  | .array items => '[' :: (spreadItems (depth + 1) items ++ newLine depth ++ [']'])
  | .object [] => "\x7b\x7d".toList
  | .object members => '{' :: (spreadMembers (depth + 1) members ++ newLine depth ++ ['}'])
  | .null => "null".toList
  | .bool b => if b then "true".toList else "false".toList
  | .number n => writeNumber n
  | .string s => quoted s

/-- The items of an array, each on its line. -/
def spreadItems (depth : Nat) : List Json → List Char
  | [] => []
  | v :: r =>
    newLine depth ++ spread depth v ++ (if r.isEmpty then [] else [',']) ++ spreadItems depth r

/-- The members of an object, each on its line. -/
def spreadMembers (depth : Nat) : List (String × Json) → List Char
  | [] => []
  | (k, v) :: r =>
    newLine depth ++ quoted k ++ ':' :: ' ' :: spread depth v ++
      (if r.isEmpty then [] else [',']) ++ spreadMembers depth r

end

/-- **Spread text** of a value: two blanks a level, empty arrays and objects closed at once. -/
def pretty (v : Json) : String :=
  String.ofList (spread 0 v)

end CallMeter.Json
