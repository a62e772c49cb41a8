import CallMeter.Json.Token

/-!
# TOML strings and keys

Strings come in four forms: with escapes or literal, on one line or over several. A string over
several lines drops a line break right after its opening quotes, and a backslash at the end of a
line joins the next text to it. A key is a bare word or a string on one line; dots join keys to
a path.

## Main definitions

* `readString?`: a string of any form
* `readPath?`: a dotted key
-/

namespace CallMeter.Toml

/-- Blanks within a line. -/
def isBlank (c : Char) : Bool :=
  c == ' ' || c == '\t'

/-- Characters that may not stand in a string or comment. -/
def isControl (c : Char) : Bool :=
  (c.toNat < 0x20 && c != '\t') || c == '\x7f'

/-- A line break at the start of a text, and what follows. -/
def readBreak? : List Char → Option (List Char)
  | '\n' :: r => some r
  | '\r' :: '\n' :: r => some r
  | _ => none

/-- The text without a line break at its start. -/
def dropBreak (cs : List Char) : List Char :=
  (readBreak? cs).getD cs

/-- The character of a one-letter escape. -/
def shortEscape? (c : Char) : Option Char :=
  if c == '/' then none else Json.shortEscape? c

/-- The rest of a string with escapes on one line, after its opening quote. -/
def readBasic? (rev : List Char) : List Char → Option (String × List Char)
  | [] => none
  | '"' :: r => some (String.ofList rev.reverse, r)
  | '\\' :: 'u' :: a :: b :: c :: d :: r => do
    readBasic? ((← Text.hexCharacter? [a, b, c, d]) :: rev) r
  | '\\' :: 'U' :: a :: b :: c :: d :: e :: f :: g :: h :: r => do
    readBasic? ((← Text.hexCharacter? [a, b, c, d, e, f, g, h]) :: rev) r
  | '\\' :: c :: r => do readBasic? ((← shortEscape? c) :: rev) r
  | c :: r => if isControl c || c == '\\' then none else readBasic? (c :: rev) r

/-- The rest of a literal string on one line, after its opening quote. -/
def readLiteral? (rev : List Char) : List Char → Option (String × List Char)
  | [] => none
  | '\x27' :: r => some (String.ofList rev.reverse, r)
  | c :: r => if isControl c then none else readLiteral? (c :: rev) r

/-- The end of a string of several lines after three quotes: up to two more quotes belong to
the string. -/
def closing (quote : Char) (rev : List Char) (cs : List Char) : String × List Char :=
  let extra := min 2 (cs.takeWhile (· == quote)).length
  (String.ofList (rev.reverse ++ List.replicate extra quote), cs.drop extra)

/-- The line ends here but for blanks. -/
def endsLine (cs : List Char) : Bool :=
  (readBreak? (cs.dropWhile isBlank)).isSome

/-- The rest of a string with escapes over several lines. With `joining`, blanks and line
breaks are skipped. -/
def readBasicLines? (rev : List Char) (joining : Bool) : List Char → Option (String × List Char)
  | [] => none
  | '"' :: '"' :: '"' :: r => some (closing '"' rev r)
  | '\\' :: 'u' :: a :: b :: c :: d :: r => do
    readBasicLines? ((← Text.hexCharacter? [a, b, c, d]) :: rev) false r
  | '\\' :: 'U' :: a :: b :: c :: d :: e :: f :: g :: h :: r => do
    readBasicLines? ((← Text.hexCharacter? [a, b, c, d, e, f, g, h]) :: rev) false r
  | '\r' :: '\n' :: r => readBasicLines? (if joining then rev else '\n' :: rev) joining r
  | '\n' :: r => readBasicLines? (if joining then rev else '\n' :: rev) joining r
  | '\\' :: c :: r =>
    -- a backslash before the end of a line joins the lines
    if endsLine (c :: r) then readBasicLines? rev true (c :: r)
    else do readBasicLines? ((← shortEscape? c) :: rev) false r
  | c :: r =>
    if isControl c || c == '\\' then none
    else if joining && isBlank c then readBasicLines? rev true r
    else readBasicLines? (c :: rev) false r

/-- The rest of a literal string over several lines. -/
def readLiteralLines? (rev : List Char) : List Char → Option (String × List Char)
  | [] => none
  | '\x27' :: '\x27' :: '\x27' :: r => some (closing '\x27' rev r)
  | '\r' :: '\n' :: r => readLiteralLines? ('\n' :: rev) r
  | '\n' :: r => readLiteralLines? ('\n' :: rev) r
  | c :: r => if isControl c then none else readLiteralLines? (c :: rev) r

/-- **A string** of any form. -/
def readString? : List Char → Option (String × List Char)
  | '"' :: '"' :: '"' :: r => readBasicLines? [] false (dropBreak r)
  | '"' :: r => readBasic? [] r
  | '\x27' :: '\x27' :: '\x27' :: r => readLiteralLines? [] (dropBreak r)
  | '\x27' :: r => readLiteral? [] r
  | _ => none

/-- Characters of bare keys. -/
def isBareKey (c : Char) : Bool :=
  c.isAlphanum || c == '_' || c == '-'

/-- One key. -/
def readKey? (cs : List Char) : Option (String × List Char) :=
  match cs with
  | '"' :: r => readBasic? [] r
  | '\x27' :: r => readLiteral? [] r
  | _ =>
    let word := cs.takeWhile isBareKey
    if word.isEmpty then none else some (String.ofList word, cs.dropWhile isBareKey)

/-- At most `fuel` keys joined by dots. -/
def readKeys? : (fuel : Nat) → List Char → Option (List String × List Char)
  | 0, _ => none
  | fuel + 1, cs => do
    let (key, r) ← readKey? (cs.dropWhile isBlank)
    match r.dropWhile isBlank with
    | '.' :: r => do
      let (keys, r) ← readKeys? fuel r
      return (key :: keys, r)
    | r => return ([key], r)

/-- How many keys a path may have. -/
def maxKeys : Nat := 79

/-- **A dotted key**, blanks around its parts allowed. -/
def readPath? (cs : List Char) : Option (List String × List Char) :=
  (readKeys? (cs.length + 1) cs).filter fun (keys, _) => keys.length ≤ maxKeys

end CallMeter.Toml
