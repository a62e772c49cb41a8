import CallMeter.Toml.Document
import CallMeter.Toml.Scalar
import CallMeter.Toml.Text

/-!
# Reading TOML

A text is a sequence of statements, one a line: a header, or a key with its value. Comments run
from a number sign to the end of the line. Arrays may spread over lines, inline tables may not.

## Main definitions

* `readValue?`: a value of any kind
* `parse?`: the settings of a text
-/

namespace CallMeter.Toml

/-- A comment at the start of a text, if there is one, and what follows; none when the comment
holds a control character. -/
def dropComment? : List Char → Option (List Char)
  | '#' :: r =>
    let inLine := fun c : Char => c != '\n' && c != '\r'
    if (r.takeWhile inLine).any isControl then none else some (r.dropWhile inLine)
  | r => some r

/-- Blanks, line breaks and comments skipped, with a bound on the steps. -/
def dropGap? : (fuel : Nat) → List Char → Option (List Char)
  | 0, cs => some cs
  | fuel + 1, cs => do
    let r ← dropComment? (cs.dropWhile isBlank)
    match readBreak? r with
    | some r => dropGap? fuel r
    | none => some r

/-- The text after blanks, line breaks and comments. -/
def skipGap? (cs : List Char) : Option (List Char) :=
  dropGap? (cs.length + 1) cs

/-- How deep arrays and inline tables may be nested. -/
def maxDepth : Nat := 79

mutual

/-- A value and what follows, with bounds on the nesting and on the steps. -/
def valueWithin? (depth : Nat) : (fuel : Nat) → List Char → Option (Setting × List Char)
  | 0, _ => none
  | fuel + 1, cs =>
    match cs, depth with
    | '[' :: _, 0 => none
    | '{' :: _, 0 => none
    | '[' :: r, depth + 1 => itemsWithin? depth fuel [] r
    | '{' :: r, depth + 1 =>
      match r.dropWhile isBlank with
      | '}' :: r => some (.group [], r)
      | _ => pairsWithin? depth fuel [] r
    | '"' :: _, _ => (readString? cs).map fun (s, r) => (.text s, r)
    | '\x27' :: _, _ => (readString? cs).map fun (s, r) => (.text s, r)
    | _, _ => readScalar? cs

/-- The rest of an array after its items so far. -/
def itemsWithin? (depth : Nat) :
    (fuel : Nat) → List Setting → List Char → Option (Setting × List Char)
  | 0, _, _ => none
  | fuel + 1, rev, cs => do
    match ← skipGap? cs with
    | ']' :: r => return (.list rev.reverse, r)
    | r => do
      let (v, r) ← valueWithin? depth fuel r
      match ← skipGap? r with
      | ',' :: r => itemsWithin? depth fuel (v :: rev) r
      | ']' :: r => return (.list (v :: rev).reverse, r)
      | _ => none

/-- The rest of an inline table after its entries so far. -/
def pairsWithin? (depth : Nat) :
    (fuel : Nat) → Table → List Char → Option (Setting × List Char)
  | 0, _, _ => none
  | fuel + 1, es, cs => do
    let (keys, r) ← readPath? cs
    match r with
    | '=' :: r => do
      let (v, r) ← valueWithin? depth fuel (r.dropWhile isBlank)
      let es ← assign? v keys es
      match r.dropWhile isBlank with
      | ',' :: r => pairsWithin? depth fuel es r
      | '}' :: r => return (.group (settingsOf es), r)
      | _ => none
    | _ => none

end

/-- **A value** of any kind and what follows. -/
def readValue? (cs : List Char) : Option (Setting × List Char) :=
  valueWithin? maxDepth (2 * cs.length + 2) cs

/-- What follows a statement on later lines: only blanks and a comment may follow on its own. -/
def endStatement? (cs : List Char) : Option (List Char) := do
  let r ← dropComment? (cs.dropWhile isBlank)
  if r.isEmpty then some [] else readBreak? r

/-- The document so far, with the table that keys go to. -/
structure State where
  root : Table
  current : List String

/-- One statement. -/
def readStatement? (state : State) (cs : List Char) : Option (State × List Char) := do
  match cs with
  | '[' :: '[' :: r => do
    let (keys, r) ← readPath? r
    match r with
    | ']' :: ']' :: r => return (⟨← openElement? keys state.root, keys⟩, r)
    | _ => none
  | '[' :: r => do
    let (keys, r) ← readPath? r
    match r with
    | ']' :: r => return (⟨← openTable? keys state.root, keys⟩, r)
    | _ => none
  | _ => do
    let (keys, r) ← readPath? cs
    match r with
    | '=' :: r => do
      let (v, r) ← readValue? (r.dropWhile isBlank)
      return ({ state with root := ← assignUnder? v keys state.current state.root }, r)
    | _ => none

/-- The statements of a text, with a bound on their number. -/
def readStatements? : (fuel : Nat) → State → List Char → Option Table
  | 0, _, _ => none
  | fuel + 1, state, cs => do
    let r ← skipGap? cs
    if r.isEmpty then return state.root
    else do
      let (state, r) ← readStatement? state r
      readStatements? fuel state (← endStatement? r)

/-- **Reading** a text: its settings by name. -/
def parse? (text : String) : Option (List (String × Setting)) :=
  let cs := match text.toList with
    | '\uFEFF' :: r => r
    | cs => cs
  (readStatements? (cs.length + 1) ⟨[], []⟩ cs).map settingsOf

end CallMeter.Toml
