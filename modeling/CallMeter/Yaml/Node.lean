import CallMeter.Decimal.Reader
import CallMeter.Settings.Tree
import CallMeter.Text.Radix

/-!
# YAML nodes

A node is what stands in a document: texts as written, sequences and mappings, anchors and the
aliases that refer to them, tags. Its value has scalars of the core kinds in place of texts and
the value of the anchored node in place of an alias. A plain text is a scalar of the kind that it
spells, unless a tag says otherwise; a text in quotes is always text.

## Main definitions

* `Node`, `Value`: what is written, and what it stands for
* `Scalar.ofPlain`, `Scalar.ofTagged`: the scalar of a plain text
* `Node.value?`: the value of a node
* `Value.toSetting`: the setting of a value
-/

namespace CallMeter.Yaml

/-- **Scalar** of the core kinds. A real number keeps its text. -/
inductive Scalar
  | absent
  | flag (b : Bool)
  | integer (n : Int)
  | real (s : String)
  | text (s : String)
  deriving DecidableEq

/-- **Node** as it is written. -/
inductive Node
  | plain (s : String)
  | quoted (s : String)
  | sequence (items : List Node)
  | mapping (entries : List (Node × Node))
  | alias (name : String)
  | anchored (name : String) (node : Node)
  /-- A tag of the core kinds by its name, or any other. -/
  | tagged (kind : Option String) (node : Node)

/-- **Value** of a node. -/
inductive Value
  | scalar (s : Scalar)
  | sequence (items : List Value)
  | mapping (entries : List (Value × Value))

/-- An integer of 64 bits in a base, a sign allowed in front. -/
def integerIn? (base : Nat) (cs : List Char) : Option Int :=
  let n? := match cs with
    | '-' :: r => (Text.readIn? base r).map fun n => -(n : Int)
    | '+' :: r => (Text.readIn? base r).map Int.ofNat
    | r => (Text.readIn? base r).map Int.ofNat
  n?.filter fun n => Int64.minValue.toInt ≤ n ∧ n ≤ Int64.maxValue.toInt

/-- The spellings of numbers that are not finite. -/
def infinities : List String :=
  [".inf", ".Inf", ".INF", "+.inf", "+.Inf", "+.INF", "-.inf", "-.Inf", "-.INF", ".nan", ".NaN",
    ".NAN"]

/-- A text spells a real number. A name of infinity alone does not. -/
def isReal (s : String) : Bool :=
  infinities.contains s || (s.toList.any Char.isDigit && (Decimal.readFloat? s).isSome)

namespace Scalar

/-- **The scalar of a plain text.** -/
def ofPlain (s : String) : Scalar :=
  let prefixed := match s.toList with
    | '0' :: 'x' :: r => integerIn? 16 r
    | '0' :: 'o' :: r => integerIn? 8 r
    | '+' :: r => integerIn? 10 r
    | _ => none
  match prefixed with
  | some n => .integer n
  | none =>
    if s == "" || s == "~" || s == "null" then .absent
    else if s == "true" then .flag true
    else if s == "false" then .flag false
    else
      match integerIn? 10 s.toList with
      | some n => .integer n
      | none => if isReal s then .real s else .text s

/-- The scalar of a plain text with a tag of a core kind, absent where the text does not fit. -/
def ofTagged (kind : Option String) (s : String) : Scalar :=
  match kind with
  | some "bool" => if s == "true" then .flag true else if s == "false" then .flag false else .absent
  | some "int" => ((integerIn? 10 s.toList).map .integer).getD .absent
  | some "float" => if isReal s then .real s else .absent
  | some "null" => .absent
  | _ => .text s

end Scalar

/-- The anchors so far, with their values where they are complete. -/
abbrev Anchors := List (String × Option Value)

/-- The scalar of a value. -/
def Value.scalar? : Value → Option Scalar
  | .scalar s => some s
  | _ => none

/-- The entries with one more, whose key is none of theirs. -/
def addEntry? (key value : Value) (rev : List (Value × Value)) : Option (List (Value × Value)) :=
  if key.scalar?.isSome && rev.any fun e => e.1.scalar? == key.scalar? then none
  else some ((key, value) :: rev)

mutual

/-- **The value** of a node after the anchors so far, if its aliases are known and its keys
differ. -/
def Node.value? (anchors : Anchors) : Node → Option (Value × Anchors)
  | .plain s => some (.scalar (.ofPlain s), anchors)
  | .quoted s => some (.scalar (.text s), anchors)
  | .tagged kind (.plain s) => some (.scalar (.ofTagged kind s), anchors)
  | .tagged kind (.anchored name (.plain s)) =>
    let v := Value.scalar (.ofTagged kind s)
    some (v, Entries.put name (some v) anchors)
  | .tagged _ node => node.value? anchors
  | .sequence items => do
    let (vs, anchors) ← itemValues? anchors items
    return (.sequence vs, anchors)
  | .mapping entries => do
    let (es, anchors) ← entryValues? anchors [] entries
    return (.mapping es, anchors)
  | .alias name => do
    -- an alias in the node of its own anchor stands for nothing
    let v := (← Entries.get? name anchors).getD (.scalar .absent)
    return (v, anchors)
  | .anchored name node => do
    let (v, anchors) ← node.value? (Entries.put name none anchors)
    return (v, Entries.put name (some v) anchors)

/-- The values of items. -/
def itemValues? (anchors : Anchors) : List Node → Option (List Value × Anchors)
  | [] => some ([], anchors)
  | n :: r => do
    let (v, anchors) ← n.value? anchors
    let (vs, anchors) ← itemValues? anchors r
    return (v :: vs, anchors)

/-- The values of entries, after those so far in reverse. -/
def entryValues? (anchors : Anchors) (rev : List (Value × Value)) :
    List (Node × Node) → Option (List (Value × Value) × Anchors)
  | [] => some (rev.reverse, anchors)
  | (k, n) :: r => do
    let (key, anchors) ← k.value? anchors
    let (value, anchors) ← n.value? anchors
    entryValues? anchors (← addEntry? key value rev) r

end

/-- The name that a key stands for: a text, or an integer in digits. -/
def Value.name? : Value → Option String
  | .scalar (.text s) => some s
  | .scalar (.integer n) => some (toString n)
  | _ => none

/-- The setting of a scalar. The names of numbers that are not finite are no numbers here. -/
def Scalar.toSetting : Scalar → Except ReadFault Setting
  | absent => .ok .absent
  | flag b => .ok (.flag b)
  | integer n => .ok (.integer n)
  | text s => .ok (.text s)
  | real s =>
    match Decimal.readFloat? s with
    | some x => .ok (.real x)
    | none => .error .malformed

mutual

/-- **The setting** of a value. -/
def Value.toSetting : Value → Except ReadFault Setting
  | .scalar s => s.toSetting
  | .sequence items => do return .list (← settingsOfItems items)
  | .mapping entries => do return .group (← settingsOfEntries [] entries)

/-- The settings of items. -/
def settingsOfItems : List Value → Except ReadFault (List Setting)
  | [] => .ok []
  | v :: r => do return (← v.toSetting) :: (← settingsOfItems r)

/-- The settings of entries, put into `done`. -/
def settingsOfEntries (done : List (String × Setting)) :
    List (Value × Value) → Except ReadFault (List (String × Setting))
  | [] => .ok done
  | (k, v) :: r =>
    match k.name? with
    | none => .error .misplaced
    | some name => do settingsOfEntries (Entries.put name (← v.toSetting) done) r

end

end CallMeter.Yaml
