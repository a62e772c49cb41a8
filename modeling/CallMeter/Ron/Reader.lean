import CallMeter.Ron.Scalar

/-!
# Reading RON

A value is a scalar, a list in square brackets, a map in braces, or a group in round brackets,
which holds fields with names or items without; a name may stand in front of a group. A name
alone and an empty group are no value. Directives that switch notations on may stand in front of
the text.

## Main definitions

* `skipGap`: the text after blanks and comments
* `parse?`: the setting that a text spells
-/

namespace CallMeter.Ron

/-- Blanks between tokens. -/
def isGap (c : Char) : Bool :=
  c == ' ' || c == '\t' || c == '\n' || c == '\r'

/-- The text after the end of `depth` block comments, one in the other. -/
def afterBlocks? : (depth : Nat) → List Char → Option (List Char)
  | 0, cs => some cs
  | depth + 1, '*' :: '/' :: r => afterBlocks? depth r
  | depth + 1, '/' :: '*' :: r => afterBlocks? (depth + 2) r
  | depth + 1, _ :: r => afterBlocks? (depth + 1) r
  | _ + 1, [] => none
termination_by _ cs => cs.length

/-- The text after blanks and comments, with a bound on the comments. -/
def skipComments : (fuel : Nat) → List Char → List Char
  | 0, cs => cs
  | fuel + 1, cs =>
    match cs.dropWhile isGap with
    | '/' :: '/' :: r => skipComments fuel (r.dropWhile (· != '\n'))
    | '/' :: '*' :: r =>
      match afterBlocks? 1 r with
      | some r => skipComments fuel r
      | none => '/' :: '*' :: r
    | r => r

/-- **The text after blanks and comments.** -/
def skipGap (cs : List Char) : List Char :=
  skipComments (cs.length + 1) cs

/-- Characters of names. -/
def isNameChar (c : Char) : Bool :=
  c.isAlphanum || c == '_'

/-- A name and what follows. -/
def readName? (cs : List Char) : Option (String × List Char) :=
  match cs with
  | 'r' :: '#' :: c :: r =>
    if isNameChar c then
      some (String.ofList ((c :: r).takeWhile isNameChar), (c :: r).dropWhile isNameChar)
    else none
  | 'r' :: '"' :: _ => none
  | c :: _ =>
    if isNameChar c && !c.isDigit then
      some (String.ofList (cs.takeWhile isNameChar), cs.dropWhile isNameChar)
    else none
  | [] => none

/-- A raw string has begun: the number of its signs and what follows its opening quote. -/
def rawStart? : List Char → Option (Nat × List Char)
  | 'r' :: r =>
    match r.dropWhile (· == '#') with
    | '"' :: rest => some ((r.takeWhile (· == '#')).length, rest)
    | _ => none
  | _ => none

/-- The fields of a group have names: a name and a colon come first. -/
def hasNames (cs : List Char) : Bool :=
  match readName? cs with
  | none => false
  | some (_, r) => (skipGap r).head? == some ':'

/-- The setting of a word without a group after it. -/
def wordOf (name : String) : Setting :=
  match name with
  | "true" => .flag true
  | "false" => .flag false
  | "inf" => .real (1.0 / 0.0)
  | "NaN" => .real (0.0 / 0.0)
  | _ => .absent

mutual

/-- A value and what follows, with a bound on the steps. -/
def readValue? : (fuel : Nat) → List Char → Option (Setting × List Char)
  | 0, _ => none
  | fuel + 1, cs =>
    match rawStart? cs with
    | some (signs, r) => (readRaw? signs [] r).map fun (s, r) => (.text s, r)
    | none =>
      match readName? cs with
      | some (name, r) =>
        if ["true", "false", "inf", "NaN", "None"].contains name then some (wordOf name, r)
        else
          match skipGap r with
          | '(' :: r =>
            if name == "Some" then readSome? fuel r
            else readGroup? fuel (skipGap r)
          | r => if name == "Some" then none else some (.absent, r)
      | none =>
        match cs with
        | '(' :: ')' :: r => some (.absent, r)
        | '(' :: r => readGroup? fuel (skipGap r)
        | '[' :: r => readItems? fuel ']' [] r
        | '{' :: r => readEntries? fuel [] r
        | '"' :: r => (readString? (r.length + 1) [] r).map fun (s, r) => (.text s, r)
        | '\x27' :: r => (readChar? r).map fun (s, r) => (.text s, r)
        | '-' :: 'i' :: 'n' :: 'f' :: r => some (.real (-1.0 / 0.0), r)
        | _ => readNumber? cs

/-- The value of an option after its opening bracket. -/
def readSome? : (fuel : Nat) → List Char → Option (Setting × List Char)
  | 0, _ => none
  | fuel + 1, cs => do
    let (v, r) ← readValue? fuel (skipGap cs)
    match skipGap r with
    | ')' :: r => return (v, r)
    | ',' :: r =>
      match skipGap r with
      | ')' :: r => return (v, r)
      | _ => none
    | _ => none

/-- The rest of a group after its opening bracket. -/
def readGroup? : (fuel : Nat) → List Char → Option (Setting × List Char)
  | 0, _ => none
  | fuel + 1, cs => if hasNames cs then readFields? fuel [] cs else readItems? fuel ')' [] cs

/-- The rest of a list, or of a group without names, after its items so far. -/
def readItems? :
    (fuel : Nat) → (close : Char) → List Setting → List Char → Option (Setting × List Char)
  | 0, _, _, _ => none
  | fuel + 1, close, rev, cs =>
    match skipGap cs with
    | [] => none
    | c :: r =>
      if c == close then some (.list rev.reverse, r)
      else do
        let (v, r) ← readValue? fuel (c :: r)
        match skipGap r with
        | ',' :: r => readItems? fuel close (v :: rev) r
        | d :: r => if d == close then return (.list (v :: rev).reverse, r) else none
        | [] => none

/-- The rest of a group with names after its fields so far. -/
def readFields? :
    (fuel : Nat) → List (String × Setting) → List Char → Option (Setting × List Char)
  | 0, _, _ => none
  | fuel + 1, es, cs =>
    match skipGap cs with
    | ')' :: r => some (.group es, r)
    | r => do
      let (name, r) ← readName? r
      match skipGap r with
      | ':' :: r => do
        let (v, r) ← readValue? fuel (skipGap r)
        let es := Entries.put name v es
        match skipGap r with
        | ',' :: r => readFields? fuel es r
        | ')' :: r => return (.group es, r)
        | _ => none
      | _ => none

/-- The rest of a map after its entries so far. Its keys are texts. -/
def readEntries? :
    (fuel : Nat) → List (String × Setting) → List Char → Option (Setting × List Char)
  | 0, _, _ => none
  | fuel + 1, es, cs =>
    match skipGap cs with
    | '}' :: r => some (.group es, r)
    | r => do
      let (key, r) ← readValue? fuel r
      match key, skipGap r with
      | .text key, ':' :: r => do
        let (v, r) ← readValue? fuel (skipGap r)
        let es := Entries.put key v es
        match skipGap r with
        | ',' :: r => readEntries? fuel es r
        | '}' :: r => return (.group es, r)
        | _ => none
      | _, _ => none

end

/-- The notations that directives switch on. -/
def notations : List String :=
  ["unwrap_newtypes", "implicit_some", "unwrap_variant_newtypes"]

/-- The text after a word and the gap behind it. -/
def afterWord? (cs : List Char) (word : String) : Option (List Char) :=
  if word.toList.isPrefixOf cs then some (skipGap (cs.drop word.length)) else none

/-- The text after the names of notations, with a bound on their number. -/
def afterNotations? : (fuel : Nat) → List Char → Option (List Char)
  | 0, _ => none
  | fuel + 1, cs => do
    let (name, r) ← readName? cs
    if !notations.contains name then none
    match skipGap r with
    | ',' :: r =>
      match skipGap r with
      | ')' :: r => return ')' :: r
      | r => afterNotations? fuel r
    | r => return r

/-- The text after a directive. -/
def afterDirective? (cs : List Char) : Option (List Char) := do
  let r ← ["#", "!", "[", "enable", "("].foldlM afterWord? cs
  [")", "]"].foldlM afterWord? (← afterNotations? (r.length + 1) r)

/-- The text after its directives, with a bound on their number. -/
def dropDirectives? : (fuel : Nat) → List Char → Option (List Char)
  | 0, cs => some cs
  | fuel + 1, cs =>
    match skipGap cs with
    | '#' :: r => do dropDirectives? fuel (← afterDirective? ('#' :: r))
    | r => some r

/-- **Reading**: the setting that a text spells. -/
def parse? (text : String) : Option Setting := do
  let cs := text.toList
  let cs ← dropDirectives? (cs.length + 1) cs
  let (v, r) ← readValue? (3 * cs.length + 3) cs
  if (skipGap r).isEmpty then some v else none

end CallMeter.Ron
