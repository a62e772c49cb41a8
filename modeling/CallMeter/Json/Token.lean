import CallMeter.Json.Numeral
import CallMeter.Text.Radix

/-!
# JSON tokens

A text is cut into tokens by a machine that reads one character at a time. Between tokens it
skips blanks; a run of letters, digits, signs and points is one word, a literal name or a
number; a string runs to its closing quote, with escapes resolved on the way. Control characters
may not stand in a string, and a surrogate escape must be one half of a pair.

## Main definitions

* `Token`: brackets, separators, strings and scalars
* `Lexer`, `Lexer.step`: the machine and its reading of one character
* `tokens?`: the tokens of a text
-/

namespace CallMeter.Json

/-- **Token**. A scalar is a literal name or a number. -/
inductive Token
  | openArray
  | closeArray
  | openObject
  | closeObject
  | comma
  | colon
  | text (s : String)
  | scalar (v : Json)

/-- Where the machine stands. Words and strings are kept in reverse. -/
inductive Lexer.Place
  /-- Between tokens. -/
  | gap
  /-- In a word. -/
  | word (w : List Char)
  /-- In a string. -/
  | string (s : List Char)
  /-- After a backslash. -/
  | escape (s : List Char)
  /-- In a four-digit escape: the leading surrogate before it, its value and the digits to come. -/
  | unit (s : List Char) (leading : Option Nat) (value digits : Nat)
  /-- After a leading surrogate. -/
  | pair (s : List Char) (leading : Nat)
  /-- After the backslash of the second half of a pair. -/
  | pairEscape (s : List Char) (leading : Nat)

/-- **The machine**: the tokens so far in reverse, and its place. -/
structure Lexer where
  done : List Token
  place : Lexer.Place

/-- Characters of words. -/
def isWordChar (c : Char) : Bool :=
  c.isAlphanum || c == '-' || c == '+' || c == '.'

/-- Blanks between tokens. -/
def isGap (c : Char) : Bool :=
  c == ' ' || c == '\t' || c == '\n' || c == '\r'

/-- The scalar that a word spells. -/
def wordScalar? (w : List Char) : Option Json :=
  match String.ofList w with
  | "null" => some .null
  | "true" => some (.bool true)
  | "false" => some (.bool false)
  | _ => (readNumber? w).map .number

/-- The character of a one-letter escape. -/
def shortEscape? (c : Char) : Option Char :=
  match c with
  | '"' => some '"'
  | '\\' => some '\\'
  | '/' => some '/'
  | 'b' => some '\x08'
  | 'f' => some '\x0c'
  | 'n' => some '\n'
  | 'r' => some '\r'
  | 't' => some '\t'
  | _ => none

namespace Lexer

/-- The token of a single character. -/
def mark? (c : Char) : Option Token :=
  match c with
  | '[' => some .openArray
  | ']' => some .closeArray
  | '{' => some .openObject
  | '}' => some .closeObject
  | ',' => some .comma
  | ':' => some .colon
  | _ => none

/-- One character between tokens. -/
def gapStep (done : List Token) (c : Char) : Option Lexer :=
  if isGap c then some ⟨done, .gap⟩
  else if c == '"' then some ⟨done, .string []⟩
  else if isWordChar c then some ⟨done, .word [c]⟩
  else (mark? c).map fun t => ⟨t :: done, .gap⟩

/-- The place after the last digit of an escape of the code unit `value`. -/
def unitEnd (s : List Char) (leading : Option Nat) (value : Nat) : Option Place :=
  match leading with
  | none =>
    -- a trailing surrogate may not come first
    if 0xDC00 ≤ value && value ≤ 0xDFFF then none
    else if 0xD800 ≤ value && value ≤ 0xDBFF then some (.pair s value)
    else some (.string (Char.ofNat value :: s))
  | some high =>
    if 0xDC00 ≤ value && value ≤ 0xDFFF then
      some (.string (Char.ofNat (0x10000 + (high - 0xD800) * 0x400 + (value - 0xDC00)) :: s))
    else none

/-- **One step**: the machine after the next character. -/
def step (m : Lexer) (c : Char) : Option Lexer :=
  match m.place with
  | .gap => gapStep m.done c
  | .word w =>
    if isWordChar c then some ⟨m.done, .word (c :: w)⟩
    -- the character that ends a word is read again between tokens
    else do gapStep (.scalar (← wordScalar? w.reverse) :: m.done) c
  | .string s =>
    if c == '"' then some ⟨.text (String.ofList s.reverse) :: m.done, .gap⟩
    else if c == '\\' then some ⟨m.done, .escape s⟩
    else if c.toNat < 0x20 then none
    else some ⟨m.done, .string (c :: s)⟩
  | .escape s =>
    if c == 'u' then some ⟨m.done, .unit s none 0 4⟩
    else (shortEscape? c).map fun e => ⟨m.done, .string (e :: s)⟩
  | .unit s leading value digits => do
    let value := 16 * value + (← Text.hexDigit? c)
    if digits ≤ 1 then return ⟨m.done, ← unitEnd s leading value⟩
    else return ⟨m.done, .unit s leading value (digits - 1)⟩
  | .pair s leading => if c == '\\' then some ⟨m.done, .pairEscape s leading⟩ else none
  | .pairEscape s leading =>
    if c == 'u' then some ⟨m.done, .unit s (some leading) 0 4⟩ else none

/-- The tokens when the text ends here. -/
def finish (m : Lexer) : Option (List Token) :=
  match m.place with
  | .gap => some m.done.reverse
  | .word w => (wordScalar? w.reverse).map fun v => (.scalar v :: m.done).reverse
  | _ => none

end Lexer

/-- **The tokens** of a text. -/
def tokens? (cs : List Char) : Option (List Token) := do
  (← cs.foldlM Lexer.step ⟨[], .gap⟩).finish

end CallMeter.Json
