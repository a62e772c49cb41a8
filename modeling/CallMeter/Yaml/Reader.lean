import CallMeter.Yaml.Node
import CallMeter.Yaml.Text

/-!
# Reading YAML

A node stands at its floor or behind it. A sequence or mapping in block form holds the entries
that begin at its column, on lines of their own; the first may follow the sign of an entry on its
line. A key without a sign takes one line. Flow collections stand in brackets and may spread over
lines. A text holds documents between markers.

## Main definitions

* `readFlow?`: a node in a flow collection
* `readKey?`: a key without a sign
* `readNode?`: a node in block form
* `parse?`: the documents of a text
-/

namespace CallMeter.Yaml

/-- An empty node. -/
def Node.empty : Node :=
  .plain ""

/-- Characters of anchors and tags. -/
def isLabelChar (c : Char) : Bool :=
  !isBlank c && !isBreak c && !isFlowMark c

/-- The name of an anchor or alias after its sign. -/
def readLabel? (cur : Cursor) : Option (String × Cursor) :=
  let name := cur.rest.takeWhile isLabelChar
  if name.isEmpty then none else some (String.ofList name, cur.advance name.length)

/-- The kind that a tag names. Only tags of the core kinds have one. -/
def tagKind? (tag : List Char) : Option String :=
  match tag with
  | '!' :: kind => some (String.ofList kind)
  | _ => none

/-- An anchor or tag in front of a node, as what it makes of the node. -/
def readProperty? (cur : Cursor) : Option ((Node → Node) × Cursor) :=
  match cur.rest with
  | '&' :: _ => (readLabel? (cur.advance 1)).map fun (name, cur) => (.anchored name, cur)
  | '!' :: r =>
    let tag := r.takeWhile isLabelChar
    let cur := cur.advance (tag.length + 1)
    if atSpace cur.rest || (cur.rest.head?.map isFlowMark).getD false then
      some (.tagged (tagKind? tag), cur)
    else none
  | _ => none

/-- The next place in a flow collection. Its lines stand one column before the floor at least. -/
def skipFlow? (floor : Nat) (cur : Cursor) : Option Cursor :=
  (cur.skipGap? 0).filter fun next =>
    !next.isEnd && (!next.fresh || floor ≤ next.column + 1)

mutual

/-- **A node in a flow collection**, with a bound on the steps. -/
def readFlow? (floor : Nat) : (fuel : Nat) → Cursor → Option (Node × Cursor)
  | 0, _ => none
  | fuel + 1, cur => do
    let cur ← skipFlow? floor cur
    match cur.rest with
    | [] => none
    | '[' :: _ => readFlowItems? floor fuel [] (cur.advance 1)
    | '{' :: _ => readFlowEntries? floor fuel [] (cur.advance 1)
    | '*' :: _ => (readLabel? (cur.advance 1)).map fun (name, cur) => (.alias name, cur)
    | c :: r =>
      if c == '"' || c == '\x27' then
        (readQuoted? c floor (r.length + 1) [] (cur.advance 1)).map fun (s, cur) =>
          (.quoted s, cur)
      else if c == '&' || c == '!' then do
        let (wrap, cur) ← readProperty? cur
        let (node, cur) ← readFlow? floor fuel cur
        return (wrap node, cur)
      else if startsPlain true (c :: r) then
        if cur.fresh && cur.column < floor then none
        else
          (readPlain? true floor (r.length + 1) [] cur).map fun (s, cur) => (.plain s, cur)
      else if isFlowMark c || (c == ':' && endsAtColon true r) then some (.empty, cur)
      else none

/-- The rest of a sequence in brackets after its items so far. -/
def readFlowItems? (floor : Nat) : (fuel : Nat) → List Node → Cursor → Option (Node × Cursor)
  | 0, _, _ => none
  | fuel + 1, rev, cur => do
    let cur ← skipFlow? floor cur
    match cur.rest with
    | ']' :: _ => return (.sequence rev.reverse, cur.advance 1)
    | ',' :: _ => none
    | _ => do
      let cur := if startsEntry '?' cur.rest then cur.advance 1 else cur
      let (node, cur) ← readFlow? floor fuel cur
      let cur ← skipFlow? floor cur
      let (item, cur) ← match cur.rest with
        | ':' :: r => do
          if !partsWord r then none
          let (value, cur) ← readFlow? floor fuel (cur.advance 1)
          pure (.mapping [(node, value)], cur)
        | _ => pure (node, cur)
      let cur ← skipFlow? floor cur
      match cur.rest with
      | ',' :: _ => readFlowItems? floor fuel (item :: rev) (cur.advance 1)
      | ']' :: _ => return (.sequence (item :: rev).reverse, cur.advance 1)
      | _ => none

/-- The rest of a mapping in braces after its entries so far. -/
def readFlowEntries? (floor : Nat) :
    (fuel : Nat) → List (Node × Node) → Cursor → Option (Node × Cursor)
  | 0, _, _ => none
  | fuel + 1, rev, cur => do
    let cur ← skipFlow? floor cur
    match cur.rest with
    | '}' :: _ => return (.mapping rev.reverse, cur.advance 1)
    | ',' :: _ => none
    | _ => do
      let cur := if startsEntry '?' cur.rest then cur.advance 1 else cur
      let (key, cur) ← readFlow? floor fuel cur
      let cur ← skipFlow? floor cur
      let (value, cur) ← match cur.rest with
        | ':' :: r => if partsWord r then readFlow? floor fuel (cur.advance 1) else none
        | _ => pure (.empty, cur)
      let cur ← skipFlow? floor cur
      match cur.rest with
      | ',' :: _ => readFlowEntries? floor fuel ((key, value) :: rev) (cur.advance 1)
      | '}' :: _ => return (.mapping ((key, value) :: rev).reverse, cur.advance 1)
      | _ => none

end

/-- A key on the line of a cursor, which ends there, with a bound on its properties. -/
def readLineKey? : (fuel : Nat) → Cursor → Option (Node × Cursor)
  | 0, _ => none
  | fuel + 1, cur =>
    let skip (cur : Cursor) : Cursor := cur.advance (cur.rest.takeWhile isBlank).length
    match cur.rest with
    | [] => none
    | c :: r =>
      if c == '&' || c == '!' then do
        let (wrap, cur) ← readProperty? cur
        let (node, cur) ← readLineKey? fuel (skip cur)
        return (wrap node, cur)
      else if c == ':' && atSpace r then some (.empty, cur)
      else if c == '[' || c == '{' || c == '"' || c == '\x27' || c == '*' then
        readFlow? 0 (3 * cur.rest.length) cur
      else if startsPlain false (c :: r) then
        let words := plainWords false (c :: r)
        some (.plain (String.ofList words), cur.advance words.length)
      else none

/-- **A key without a sign**, and the place after its colon. It takes one line. -/
def readKey? (cur : Cursor) : Option (Node × Cursor) := do
  let line := cur.rest.takeWhile fun c => !isBreak c
  let (key, after) ← readLineKey? (line.length + 1) { cur with rest := line }
  match after.rest.dropWhile isBlank with
  | ':' :: r =>
    if atSpace r && partsWord r then
      let length := line.length - r.length
      some (key, cur.advance length)
    else none
  | _ => none

/-- An entry of a mapping begins here. -/
def startsPair (cur : Cursor) : Bool :=
  startsEntry '?' cur.rest || (readKey? cur).isSome

/-- Where a node in block form may stand: its floor, the least column of a sequence, and whether
a collection may begin on the line of the cursor. -/
structure Site where
  floor : Nat
  sequenceFloor : Nat
  compact : Bool

mutual

/-- **A node in block form**, with a bound on the steps. -/
def readNode? : (fuel : Nat) → Site → Cursor → Option (Node × Cursor)
  | 0, _, _ => none
  | fuel + 1, site, cur => do
    let next ← cur.skipGap? site.floor
    let isItem := startsEntry '-' next.rest
    let least := if isItem then site.sequenceFloor else site.floor
    if next.isEnd || (next.fresh && next.column < least) then return (.empty, next)
    let isOpen := site.compact || next.fresh
    match next.rest with
    | [] => return (.empty, next)
    | c :: r =>
      if isItem then if isOpen then readItems? fuel next.column [] next else none
      else if startsPair next then
        if isOpen then readPairs? fuel next.column [] next else none
      else if c == '&' || c == '!' then do
        let (wrap, cur) ← readProperty? next
        let (node, cur) ← readNode? fuel { site with compact := false } cur
        return (wrap node, cur)
      else if c == '|' || c == '>' then
        (readBlock? (c == '>') site.floor (next.advance 1)).map fun (s, cur) => (.quoted s, cur)
      else if c == '[' || c == '{' || c == '"' || c == '\x27' || c == '*' then
        readFlow? site.floor fuel next
      else if startsPlain false (c :: r) then
        (readPlain? false site.floor (r.length + 1) [] next).map fun (s, cur) => (.plain s, cur)
      else none

/-- The items of a sequence at a column, after those so far. -/
def readItems? : (fuel : Nat) → (column : Nat) → List Node → Cursor → Option (Node × Cursor)
  | 0, _, _, _ => none
  | fuel + 1, column, rev, cur => do
    if !partsEntry cur.rest.tail then none
    let (item, cur) ← readNode? fuel ⟨column + 1, column + 1, true⟩ (cur.advance 1)
    let next ← cur.skipGap? column
    if !next.isEnd && next.fresh && next.column == column && startsEntry '-' next.rest then
      readItems? fuel column (item :: rev) next
    else return (.sequence (item :: rev).reverse, next)

/-- The entries of a mapping at a column, after those so far. -/
def readPairs? :
    (fuel : Nat) → (column : Nat) → List (Node × Node) → Cursor → Option (Node × Cursor)
  | 0, _, _, _ => none
  | fuel + 1, column, rev, cur => do
    let inner : Site := ⟨column + 1, column + 1, true⟩
    let (key, value, cur) ←
      if startsEntry '?' cur.rest then do
        let (key, cur) ← readNode? fuel inner (cur.advance 1)
        let next ← cur.skipGap? column
        if next.fresh && next.column == column && startsEntry ':' next.rest then do
          let (value, cur) ← readNode? fuel inner (next.advance 1)
          pure (key, value, cur)
        else pure (key, .empty, next)
      else do
        let (key, cur) ← readKey? cur
        -- the items of a sequence may stand at the column of their key
        let (value, cur) ← readNode? fuel ⟨column + 1, column, false⟩ cur
        pure (key, value, cur)
    let next ← cur.skipGap? column
    if !next.isEnd && next.fresh && next.column == column && startsPair next then
      readPairs? fuel column ((key, value) :: rev) next
    else return (.mapping ((key, value) :: rev).reverse, next)

end

/-- The directives in front of a document, up to its marker, with a bound on their number. -/
def skipDirectives? : (fuel : Nat) → Cursor → Option Cursor
  | 0, _ => none
  | fuel + 1, cur => do
    let next ← cur.skipGap? 0
    match next.rest with
    | '%' :: r =>
      if next.column == 0 then skipDirectives? fuel ⟨0, true, r.dropWhile fun c => !isBreak c⟩
      else none
    | r => if next.column == 0 && startsMarker '-' r then some next else none

/-- A document and what follows. -/
def readDocument? (cur : Cursor) : Option (Node × Cursor) := do
  let cur ←
    if cur.rest.head? == some '%' && cur.column == 0 then
      skipDirectives? (cur.rest.length + 1) cur
    else pure cur
  let fuel := 4 * cur.rest.length + 8
  if cur.column == 0 && startsMarker '-' cur.rest then
    readNode? fuel ⟨0, 0, false⟩ (cur.advance 3)
  else readNode? fuel ⟨0, 0, true⟩ cur

/-- The documents of a text, with a bound on their number. -/
def readDocuments? : (fuel : Nat) → Cursor → Option (List Node)
  | 0, _ => none
  | fuel + 1, cur => do
    let cur ← cur.skipGap? 0
    if cur.rest.isEmpty then return []
    else if cur.column == 0 && startsMarker '.' cur.rest then do
      -- nothing but a comment may follow the marker on its line
      let next ← (cur.advance 3).skipGap? 0
      if next.fresh || next.rest.isEmpty then readDocuments? fuel next else none
    else do
      let (node, cur) ← readDocument? cur
      let next ← cur.skipGap? 0
      if next.isEnd then return node :: (← readDocuments? fuel next) else none

/-- **Reading**: the values of the documents of a text. -/
def parse? (text : String) : Option (List Value) := do
  let cs := text.toList
  let nodes ← readDocuments? (2 * cs.length + 2) ⟨0, true, cs⟩
  nodes.mapM fun node => (node.value? []).map Prod.fst

end CallMeter.Yaml
