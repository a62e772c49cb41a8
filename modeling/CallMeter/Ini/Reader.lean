import CallMeter.Settings.Tree
import CallMeter.Text.Blank
import CallMeter.Text.Radix

/-!
# Reading INI

A text is a sequence of sections with keys and values, after the keys of no section. A key runs
to an equals sign or a colon and may spread over lines; a value runs to the end of its line, with
quoted pieces taken out of their quotes. A comment begins in the first column. Of two sections
with one name the later counts.

## Main definitions

* `readUntil?`: the text up to a character, with escapes
* `readLine?`: a value
* `parse?`: the settings of a text by name
-/

namespace CallMeter.Ini

/-- What a backslash makes of a character: a line break disappears, most characters stand for
themselves. -/
def escaped (c : Char) : List Char :=
  match c with
  | '0' => ['\x00']
  | 'a' => ['\x07']
  | 'b' => ['\x08']
  | 't' => ['\t']
  | 'r' => ['\r']
  | 'n' => ['\n']
  | '\n' => []
  | c => [c]

/-- The text up to a character that ends it, and what follows from there. -/
def readUntil? (isEnd : Char → Bool) (rev : List Char) : List Char → Option (List Char × List Char)
  | [] => none
  | '\\' :: 'x' :: a :: b :: c :: d :: r => do
    readUntil? isEnd ((← Text.hexCharacter? [a, b, c, d]) :: rev) r
  | '\\' :: c :: r => if c == 'x' then none else readUntil? isEnd (escaped c ++ rev) r
  | c :: r =>
    if isEnd c then some (rev.reverse, c :: r)
    else if c == '\\' then none
    else readUntil? isEnd (c :: rev) r

/-- The rest of a line. The last one ends with the text. -/
def readRest? (cs : List Char) : Option (List Char × List Char) :=
  (readUntil? (fun c => c == '\n' || c == '\r') [] (cs ++ ['\n'])).map fun (line, r) =>
    (line, r.dropLast)

/-- **A value** after its pieces in quotes so far. The rest of its line is trimmed, in front only
when there is no such piece. -/
def readLine? : (fuel : Nat) → Option (List Char) → List Char → Option (List Char × List Char)
  | 0, _, _ => none
  | fuel + 1, pieces, cs =>
    let quoted (quote : Char) (r : List Char) : Option (List Char × List Char) := do
      let (piece, r) ← readUntil? (· == quote) [] r
      readLine? fuel (some (pieces.getD [] ++ piece)) r.tail
    match cs with
    | '"' :: r => quoted '"' r
    | '\x27' :: r => quoted '\x27' r
    | _ => do
      let (line, r) ← readRest? cs
      match pieces with
      | none => return (Text.trimChars line, r)
      | some pieces => return (pieces ++ (line.reverse.dropWhile Text.isSpace).reverse, r)

/-- The settings so far, and the section that keys go to. -/
structure State where
  heading : Option String
  entries : List (String × Setting)

namespace State

/-- A section begins. -/
def enter (st : State) (name : String) : State :=
  ⟨some name, Entries.put name (.group []) st.entries⟩

/-- A key is given a value. -/
def assign (st : State) (key value : String) : State :=
  match st.heading with
  | none => { st with entries := Entries.put key (.text value) st.entries }
  | some name =>
    let inner := Setting.entries (Entries.get? name st.entries)
    { st with
      entries := Entries.put name (.group (Entries.put key (.text value) inner)) st.entries }

end State

/-- The text after blanks and line breaks, and whether it is at the first column. -/
def skipBlanks (atStart : Bool) : List Char → Bool × List Char
  | [] => (atStart, [])
  | c :: r => if Text.isSpace c then skipBlanks (c == '\n') r else (atStart, c :: r)

/-- The items of a text, with a bound on their number. -/
def readItems? : (fuel : Nat) → (atStart : Bool) → State → List Char → Option State
  | 0, _, _, _ => none
  | fuel + 1, atStart, st, cs =>
    match skipBlanks atStart cs with
    | (_, []) => some st
    | (atStart, c :: r) =>
      if c == ';' || c == '#' then
        if atStart then readItems? fuel false st (r.dropWhile (· != '\n')) else none
      else if c == '[' then do
        let (name, r) ← readUntil? (· == ']') [] r
        readItems? fuel false (st.enter (String.ofList (Text.trimChars name))) r.tail
      else do
        let (key, r) ← readUntil? (fun c => c == '=' || c == ':') [] (c :: r)
        let key := Text.trimChars key
        if key.isEmpty then none
        let inLine := fun c : Char => Text.isSpace c && c != '\n' && c != '\r'
        let (value, r) ← readLine? (r.length + 1) none (r.tail.dropWhile inLine)
        readItems? fuel false (st.assign (String.ofList key) (String.ofList value)) r

/-- **Reading**: the settings of a text by name. -/
def parse? (text : String) : Option (List (String × Setting)) :=
  let cs := text.toList
  (readItems? (cs.length + 1) true ⟨none, []⟩ cs).map State.entries

end CallMeter.Ini
