import CallMeter.Json.Token

/-!
# Reading JSON

Tokens go through a machine with a stack of open arrays and objects. Its mode says what may come
next; a value that is complete waits for the separator or bracket that follows it. A text is a
JSON document when the machine ends on one complete value with an empty stack. At most 127
arrays and objects may be open at a time.

## Main definitions

* `Reader`, `Reader.step`: the machine and its reading of one token
* `ofTokens?`, `parse?`: the value of tokens and of a text
-/

namespace CallMeter.Json

/-- An open array with its items in reverse, or an open object with its members and the key
whose value is being read. -/
inductive Reader.Frame
  | items (rev : List Json)
  | member (members : List (String × Json)) (key : String)

/-- What may come next. -/
inductive Reader.Mode
  /-- A value. -/
  | value
  /-- A value, or the end of an array just opened. -/
  | firstItem
  /-- A key, or the end of an object just opened. -/
  | firstKey
  /-- A key of an object with these members. -/
  | key (members : List (String × Json))
  /-- The colon after a key. -/
  | colon (members : List (String × Json)) (key : String)
  /-- What follows a complete value. -/
  | after (v : Json)

/-- **The machine**: the open arrays and objects, innermost first, and the mode. -/
structure Reader where
  stack : List Reader.Frame
  mode : Reader.Mode

namespace Reader

/-- The most arrays and objects that may be open. -/
def maxDepth : Nat := 127

/-- One token where a value is due. -/
def valueStep (stack : List Frame) : Token → Option Reader
  | .openArray =>
    if stack.length < maxDepth then some ⟨.items [] :: stack, .firstItem⟩ else none
  | .openObject =>
    if stack.length < maxDepth then some ⟨stack, .firstKey⟩ else none
  | .text s => some ⟨stack, .after (.string s)⟩
  | .scalar v => some ⟨stack, .after v⟩
  | _ => none

/-- One token after the complete value `v`. -/
def afterStep (v : Json) : List Frame → Token → Option Reader
  | .items rev :: stack, .comma => some ⟨.items (v :: rev) :: stack, .value⟩
  | .items rev :: stack, .closeArray => some ⟨stack, .after (.array (v :: rev).reverse)⟩
  | .member members key :: stack, .comma => some ⟨stack, .key (Entries.put key v members)⟩
  | .member members key :: stack, .closeObject =>
    some ⟨stack, .after (.object (Entries.put key v members))⟩
  | _, _ => none

/-- **One step**: the machine after the next token. -/
def step (m : Reader) (t : Token) : Option Reader :=
  match m.mode, t with
  | .value, t => valueStep m.stack t
  | .firstItem, .closeArray =>
    match m.stack with
    | .items _ :: stack => some ⟨stack, .after (.array [])⟩
    | _ => none
  | .firstItem, t => valueStep m.stack t
  | .firstKey, .closeObject => some ⟨m.stack, .after (.object [])⟩
  | .firstKey, .text k => some ⟨m.stack, .colon [] k⟩
  | .firstKey, _ => none
  | .key members, .text k => some ⟨m.stack, .colon members k⟩
  | .key _, _ => none
  | .colon members k, .colon => some ⟨.member members k :: m.stack, .value⟩
  | .colon _ _, _ => none
  | .after v, t => afterStep v m.stack t

/-- The value when the text ends here. -/
def finish : Reader → Option Json
  | ⟨[], .after v⟩ => some v
  | _ => none

end Reader

/-- The value that tokens spell. -/
def ofTokens? (ts : List Token) : Option Json := do
  (← ts.foldlM Reader.step ⟨[], .value⟩).finish

/-- **Reading**: the value of a JSON text. -/
def parse? (text : String) : Option Json := do
  ofTokens? (← tokens? text.toList)

end CallMeter.Json
