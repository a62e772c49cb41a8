import CallMeter.Text.Radix

/-!
# YAML text

Texts are read at a cursor, which knows the column and whether its line holds only blanks before
it. A text that goes on over lines has them joined: a single line break becomes a space, each
further one stays a line break. Its lines stand at a least column, the floor. The markers of
documents stand in the first column and belong to no text.

## Main definitions

* `Cursor`, `Cursor.skipGap?`: a place in a document, and the next one that is not a gap
* `readQuoted?`, `readPlain?`, `readBlock?`: texts in quotes, without, and in blocks of lines
-/

namespace CallMeter.Yaml

/-- **Place** in a document: its column, whether only blanks come before it on its line, and what
follows. -/
structure Cursor where
  column : Nat
  fresh : Bool
  rest : List Char

/-- Characters that end a line. -/
def isBreak (c : Char) : Bool :=
  c == '\n' || c == '\r'

/-- Blanks within a line. -/
def isBlank (c : Char) : Bool :=
  c == ' ' || c == '\t'

/-- Characters with a meaning in flow collections. -/
def isFlowMark (c : Char) : Bool :=
  c == ',' || c == '[' || c == ']' || c == '{' || c == '}'

/-- A blank or the end of a line comes next. -/
def atSpace : List Char → Bool
  | [] => true
  | c :: _ => isBlank c || isBreak c

/-- The start of an entry with this sign comes next. -/
def startsEntry (sign : Char) : List Char → Bool
  | c :: r => c == sign && atSpace r
  | [] => false

/-- A word may follow the blanks that come next after a colon: tabs alone do not part them. -/
def partsWord (cs : List Char) : Bool :=
  let blanks := cs.takeWhile isBlank
  let isWordChar := fun c : Char => c.isAlphanum || c == '_' || c == '-'
  !(blanks.head? == some '\t' && !blanks.contains ' ' &&
    ((cs.dropWhile isBlank).head?.map isWordChar).getD false)

/-- The blanks that come next may stand before the content of an entry: no tab parts the signs of
two entries. -/
def partsEntry (cs : List Char) : Bool :=
  !((cs.takeWhile isBlank).contains '\t' && startsEntry '-' (cs.dropWhile isBlank))

/-- A marker of documents of this kind comes next. -/
def startsMarker (sign : Char) (cs : List Char) : Bool :=
  [sign, sign, sign].isPrefixOf cs && atSpace (cs.drop 3)

namespace Cursor

/-- A place some characters later on the same line. -/
def advance (cur : Cursor) (n : Nat) : Cursor :=
  ⟨cur.column + n, false, cur.rest.drop n⟩

/-- The document ends here. -/
def isEnd (cur : Cursor) : Bool :=
  cur.rest.isEmpty ||
    (cur.column == 0 && (startsMarker '-' cur.rest || startsMarker '.' cur.rest))

/-- The place after blanks, comments and line breaks from a column on. A comment follows a blank,
and a line with something on it has no tabs in front of the floor. -/
def skipFrom? (floor column : Nat) (fresh spaced comment tabbed : Bool) :
    List Char → Option Cursor
  | [] => some ⟨column, fresh, []⟩
  | c :: r =>
    if isBreak c then skipFrom? floor 0 true true false false r
    else if comment then skipFrom? floor (column + 1) fresh true true tabbed r
    else if c == ' ' then skipFrom? floor (column + 1) fresh true false tabbed r
    else if c == '\t' then
      skipFrom? floor (column + 1) fresh true false (tabbed || (fresh && column < floor)) r
    else if c == '#' && spaced then skipFrom? floor (column + 1) fresh true true tabbed r
    else if tabbed then none
    else some ⟨column, fresh, c :: r⟩

/-- **The next place that is not in a gap.** -/
def skipGap? (floor : Nat) (cur : Cursor) : Option Cursor :=
  skipFrom? floor cur.column cur.fresh cur.fresh false false cur.rest

/-- The place after line breaks and blanks, with the number of breaks. -/
def skipLines? (floor : Nat) (breaks column : Nat) (tabbed : Bool) :
    List Char → Option (Nat × Cursor)
  | [] => some (breaks, ⟨column, true, []⟩)
  | '\r' :: '\n' :: r => skipLines? floor (breaks + 1) 0 false r
  | c :: r =>
    if isBreak c then skipLines? floor (breaks + 1) 0 false r
    else if isBlank c then
      skipLines? floor breaks (column + 1) (tabbed || (c == '\t' && column < floor)) r
    else if tabbed then none
    else some (breaks, ⟨column, true, c :: r⟩)

/-- The place where a text goes on after the end of its line, at the floor or behind it. -/
def nextLine? (floor : Nat) (cur : Cursor) : Option (Nat × Cursor) :=
  (skipLines? floor 0 cur.column false cur.rest).filter fun (_, next) =>
    floor ≤ next.column && !next.isEnd

end Cursor

/-- What some line breaks become in a text, in any order. -/
def folded (breaks : Nat) : List Char :=
  if breaks ≤ 1 then [' '] else List.replicate (breaks - 1) '\n'

/-! ### Quotes -/

/-- The character of an escape and the length of the escape. -/
def readEscape? : List Char → Option (Char × Nat)
  | 'x' :: a :: b :: _ => (Text.hexCharacter? [a, b]).map fun c => (c, 3)
  | 'u' :: a :: b :: c :: d :: _ => (Text.hexCharacter? [a, b, c, d]).map fun c => (c, 5)
  | 'U' :: a :: b :: c :: d :: e :: f :: g :: h :: _ =>
    (Text.hexCharacter? [a, b, c, d, e, f, g, h]).map fun c => (c, 9)
  | c :: _ =>
    let short? := [('0', '\x00'), ('a', '\x07'), ('b', '\x08'), ('t', '\t'), ('\t', '\t'),
      ('n', '\n'), ('v', '\x0b'), ('f', '\x0c'), ('r', '\r'), ('e', '\x1b'), (' ', ' '),
      ('"', '"'), ('/', '/'), ('\\', '\\'), ('N', '\u0085'), ('_', '\u00A0'), ('L', '\u2028'),
      ('P', '\u2029')].lookup c
    short?.map fun x => (x, 1)
  | [] => none

/-- **The rest of a text in quotes** after its opening quote, with a bound on its length. A double
quote admits escapes, a single quote is written twice. -/
def readQuoted? (quote : Char) (floor : Nat) :
    (fuel : Nat) → List Char → Cursor → Option (String × Cursor)
  | 0, _, _ => none
  | fuel + 1, rev, cur =>
    match cur.rest with
    | [] => none
    | c :: r =>
      if c == quote then
        if quote == '\x27' && r.head? == some quote then
          readQuoted? quote floor fuel (quote :: rev) (cur.advance 2)
        else some (String.ofList rev.reverse, cur.advance 1)
      else if c == '\\' && quote == '"' then
        if (r.head?.map isBreak).getD false then do
          -- an escaped line break joins the lines without a space
          let (breaks, next) ← (cur.advance 1).nextLine? floor
          readQuoted? quote floor fuel (List.replicate (breaks - 1) '\n' ++ rev) next
        else do
          let (x, n) ← readEscape? r
          readQuoted? quote floor fuel (x :: rev) (cur.advance (n + 1))
      else if isBlank c || isBreak c then
        let blanks := cur.rest.takeWhile isBlank
        match cur.rest.dropWhile isBlank with
        | [] => none
        | d :: _ =>
          if isBreak d then do
            let (breaks, next) ← (cur.advance blanks.length).nextLine? floor
            readQuoted? quote floor fuel (folded breaks ++ rev) next
          else readQuoted? quote floor fuel (blanks.reverse ++ rev) (cur.advance blanks.length)
      else readQuoted? quote floor fuel (c :: rev) (cur.advance 1)

/-! ### Plain texts -/

/-- A colon here ends a plain text. -/
def endsAtColon (flow : Bool) (after : List Char) : Bool :=
  atSpace after || (flow && (after.head?.map isFlowMark).getD false)

/-- The plain text on a line, blanks at its end included. -/
def plainLine (flow spaced : Bool) : List Char → List Char
  | [] => []
  | c :: r =>
    if isBreak c || (c == ':' && endsAtColon flow r) || (c == '#' && spaced) ||
        (flow && isFlowMark c) then []
    else c :: plainLine flow (isBlank c) r

/-- The plain text on a line without blanks at its end. -/
def plainWords (flow : Bool) (cs : List Char) : List Char :=
  ((plainLine flow true cs).reverse.dropWhile isBlank).reverse

/-- A plain text may begin with the character that comes next. -/
def startsPlain (flow : Bool) : List Char → Bool
  | [] => false
  | c :: r =>
    if c == '-' || c == '?' || c == ':' then
      !atSpace r && !(flow && (r.head?.map isFlowMark).getD false)
    else !isBlank c && !isBreak c && !isFlowMark c &&
      !(['#', '&', '*', '!', '|', '>', '\x27', '"', '%', '@', '\x60'].contains c)

/-- **A plain text**, with a bound on its lines. -/
def readPlain? (flow : Bool) (floor : Nat) :
    (fuel : Nat) → List Char → Cursor → Option (String × Cursor)
  | 0, _, _ => none
  | fuel + 1, done, cur =>
    let words := plainWords flow cur.rest
    let done := done ++ words
    let cur := cur.advance words.length
    let further? := do
      let (breaks, next) ← cur.nextLine? floor
      if breaks == 0 || (plainWords flow next.rest).isEmpty then none
      else some (breaks, next)
    match further? with
    | some (breaks, next) => readPlain? flow floor fuel (done ++ folded breaks) next
    | none => some (String.ofList done, cur)

/-! ### Blocks of lines -/

/-- How a block ends: with one line break, with none, or with all of them. -/
inductive Chomping
  | clip
  | strip
  | keep

/-- The signs after the sign of a block: its ending and its indentation, each at most once. -/
def blockHeader? (signs : List Char) : Option (Chomping × Option Nat) :=
  let digit? (c : Char) : Option Nat :=
    if '1' ≤ c ∧ c ≤ '9' then some (c.toNat - '0'.toNat) else none
  match signs with
  | [] => some (.clip, none)
  | ['+'] => some (.keep, none)
  | ['-'] => some (.strip, none)
  | [c] => (digit? c).map fun n => (.clip, some n)
  | ['+', c] => (digit? c).map fun n => (.keep, some n)
  | ['-', c] => (digit? c).map fun n => (.strip, some n)
  | [c, '+'] => (digit? c).map fun n => (.keep, some n)
  | [c, '-'] => (digit? c).map fun n => (.strip, some n)
  | _ => none

/-- The first line of a text and what follows, if a line break ends it. -/
def cutLine : List Char → List Char × Option (List Char)
  | [] => ([], none)
  | '\r' :: '\n' :: r => ([], some r)
  | c :: r =>
    if isBreak c then ([], some r)
    else
      let (line, rest) := cutLine r
      (c :: line, rest)

/-- The column of the first line that is more than spaces, with a bound on the lines. -/
def firstColumn : (fuel : Nat) → List Char → Nat
  | 0, _ => 0
  | fuel + 1, cs =>
    let (line, rest) := cutLine cs
    if line.all (· == ' ') then
      match rest with
      | some r => firstColumn fuel r
      | none => 0
    else (line.takeWhile (· == ' ')).length

/-- The lines of a block without their indentation, what follows them, and whether a line break
ends the last one. -/
def blockLines (indent : Nat) :
    (fuel : Nat) → List (List Char) → Bool → List Char → List (List Char) × Bool × List Char
  | 0, rev, broken, cs => (rev.reverse, broken, cs)
  | fuel + 1, rev, broken, cs =>
    let (line, rest) := cutLine cs
    let spaces := (line.takeWhile (· == ' ')).length
    let cur : Cursor := ⟨0, true, cs⟩
    if cs.isEmpty || cur.isEnd || (spaces < indent && spaces < line.length) then
      (rev.reverse, broken, cs)
    else
      match rest with
      | some r => blockLines indent fuel (line.drop indent :: rev) true r
      | none => ((line.drop indent :: rev).reverse, false, [])

/-- The lines of a block joined. In a folded one, lines that begin with a blank keep the breaks
around them. -/
def joinLines (fold : Bool) (before : Option (List Char)) (empty : Nat) :
    List (List Char) → List Char
  | [] => []
  | line :: r =>
    if line.isEmpty then joinLines fold before (empty + 1) r
    else
      let isSet (l : List Char) : Bool := !(l.head?.map isBlank).getD false
      let gap := match before with
        | none => List.replicate empty '\n'
        | some l =>
          if fold && isSet l && isSet line then
            if empty == 0 then [' '] else List.replicate empty '\n'
          else List.replicate (empty + 1) '\n'
      gap ++ line ++ joinLines fold (some line) 0 r

/-- **A block of lines** after its sign. -/
def readBlock? (fold : Bool) (floor : Nat) (cur : Cursor) : Option (String × Cursor) := do
  let isSign := fun c : Char => !isBlank c && !isBreak c
  let (chomping, indent?) ← blockHeader? (cur.rest.takeWhile isSign)
  let afterSigns := cur.rest.dropWhile isSign
  let afterBlanks := afterSigns.dropWhile isBlank
  let (comment, rest) := cutLine afterBlanks
  if !comment.isEmpty && !(comment.head? == some '#' && isBlank (afterSigns.headD ' ')) then none
  let text := rest.getD []
  let indent := match indent? with
    -- a given indentation counts from the column of the collection around
    | some n => (floor - 1) + n
    | none => max floor (firstColumn (text.length + 1) text)
  let (lines, broken, rest) := blockLines indent (text.length + 1) [] false text
  let body := joinLines fold none 0 lines
  let trailing := (lines.reverse.takeWhile List.isEmpty).length
  let last := if broken || 0 < trailing then ['\n'] else []
  let ending := match chomping with
    | .strip => []
    | .clip => if body.isEmpty then [] else last
    | .keep => (if body.isEmpty then [] else last) ++ List.replicate trailing '\n'
  return (String.ofList (body ++ ending), ⟨0, true, rest⟩)

end CallMeter.Yaml
