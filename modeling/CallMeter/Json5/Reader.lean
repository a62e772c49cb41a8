import CallMeter.Json5.Scalar

/-!
# Reading JSON5

JSON with comments, names as keys, strings in either kind of quotes, and a comma allowed after
the last item or member.

## Main definitions

* `skipGap`: the text after blanks and comments
* `parse?`: the setting that a text spells
-/

namespace CallMeter.Json5

/-- The text after the end of a block comment. -/
def afterBlock? : List Char → Option (List Char)
  | '*' :: '/' :: r => some r
  | _ :: r => afterBlock? r
  | [] => none

/-- The text after blanks and comments, with a bound on the comments. -/
def skipComments : (fuel : Nat) → List Char → List Char
  | 0, cs => cs
  | fuel + 1, cs =>
    match cs.dropWhile isGap with
    | '/' :: '/' :: r => skipComments fuel (r.dropWhile fun c => !isBreak c)
    | '/' :: '*' :: r =>
      match afterBlock? r with
      | some r => skipComments fuel r
      | none => '/' :: '*' :: r
    | r => r

/-- **The text after blanks and comments.** -/
def skipGap (cs : List Char) : List Char :=
  skipComments (cs.length + 1) cs

/-- Characters of names, at their start and after it. -/
def isNameChar (first : Bool) (c : Char) : Bool :=
  c.isAlpha || c == '$' || c == '_' || (!first && c.isDigit) ||
    (0x80 ≤ c.toNat && !isGap c && c != '\u0085')

/-- The rest of a name, with escapes. -/
def readName? (rev : List Char) : List Char → Option (String × List Char)
  | '\\' :: 'u' :: a :: b :: c :: d :: r => do
    readName? ((← Text.hexCharacter? [a, b, c, d]) :: rev) r
  | c :: r =>
    if isNameChar rev.isEmpty c then readName? (c :: rev) r
    else if rev.isEmpty then none
    else some (String.ofList rev.reverse, c :: r)
  | [] => if rev.isEmpty then none else some (String.ofList rev.reverse, [])

/-- A key and what follows. -/
def readKey? : List Char → Option (String × List Char)
  | '"' :: r => readString? '"' [] r
  | '\x27' :: r => readString? '\x27' [] r
  | r => readName? [] r

mutual

/-- A value and what follows, with a bound on the steps. -/
def readValue? : (fuel : Nat) → List Char → Option (Setting × List Char)
  | 0, _ => none
  | fuel + 1, cs =>
    match skipGap cs with
    | '[' :: r => readItems? fuel [] r
    | '{' :: r => readMembers? fuel [] r
    | '"' :: r => (readString? '"' [] r).map fun (s, r) => (.text s, r)
    | '\x27' :: r => (readString? '\x27' [] r).map fun (s, r) => (.text s, r)
    | r => (scalarOf? (r.takeWhile isWordChar)).map fun s => (s, r.dropWhile isWordChar)

/-- The rest of an array after its items so far. -/
def readItems? : (fuel : Nat) → List Setting → List Char → Option (Setting × List Char)
  | 0, _, _ => none
  | fuel + 1, rev, cs =>
    match skipGap cs with
    | ']' :: r => some (.list rev.reverse, r)
    | r => do
      let (v, r) ← readValue? fuel r
      match skipGap r with
      | ',' :: r => readItems? fuel (v :: rev) r
      | ']' :: r => return (.list (v :: rev).reverse, r)
      | _ => none

/-- The rest of an object after its members so far. -/
def readMembers? :
    (fuel : Nat) → List (String × Setting) → List Char → Option (Setting × List Char)
  | 0, _, _ => none
  | fuel + 1, es, cs =>
    match skipGap cs with
    | '}' :: r => some (.group es, r)
    | r => do
      let (key, r) ← readKey? r
      match skipGap r with
      | ':' :: r => do
        let (v, r) ← readValue? fuel r
        let es := Entries.put key v es
        match skipGap r with
        | ',' :: r => readMembers? fuel es r
        | '}' :: r => return (.group es, r)
        | _ => none
      | _ => none

end

/-- **Reading**: the setting that a text spells. -/
def parse? (text : String) : Option Setting := do
  let cs := text.toList
  let (v, r) ← readValue? (2 * cs.length + 2) cs
  if (skipGap r).isEmpty then some v else none

end CallMeter.Json5
