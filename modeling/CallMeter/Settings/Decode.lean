import CallMeter.Json.Value
import CallMeter.Settings.Basic
import CallMeter.Settings.Tree

/-!
# Decoding settings

Settings come as JSON values or as setting trees. The two dialects differ in how scalars
convert: JSON takes each type as it is and reads `null` as an absent option, a tree converts
scalars. In both a group is a set of named fields, or a list of fields in order. A missing field
takes its default, an unknown one does not count.

## Main definitions

* `Dialect`: the groups and scalars of a kind of value
* `jsonDialect`, `treeDialect`: the two dialects
* `Settings.decode?`: the settings of a value
-/

namespace CallMeter

/-- **Dialect**: the fields of groups and the conversion of scalars. -/
structure Dialect (α : Type) where
  /-- The value is a group of at most this many fields in order, or of named fields. -/
  isGroup : Nat → α → Bool
  /-- The field with a name and a place. -/
  field? : String → Nat → α → Option α
  /-- The value stands for an absent option. -/
  isNull : α → Bool
  text? : α → Option String
  word? : Nat → α → Option Nat

/-- JSON values. -/
def jsonDialect : Dialect Json where
  isGroup arity
    | .object _ => true
    | .array items => items.length ≤ arity
    | _ => false
  field? name place
    | .object members => Entries.get? name members
    | .array items => items[place]?
    | _ => none
  isNull
    | .null => true
    | _ => false
  text? := Json.text?
  word? limit
    | .number (.natural n) => some n.toNat |>.filter (· ≤ limit)
    | _ => none

/-- Setting trees. -/
def treeDialect : Dialect Setting where
  isGroup _
    | .group _ => true
    | .list _ => true
    | _ => false
  field? name place
    | .group entries => Entries.get? name entries
    | .list items => items[place]?
    | _ => none
  isNull
    | .absent => true
    | _ => false
  text? := Setting.asText?
  word? := Setting.asWord?

namespace Dialect

variable {α β : Type} (d : Dialect α)

/-- A field that must convert when it is there. -/
def required? (convert : α → Option β) (default : β) (name : String) (place : Nat) (v : α) :
    Option β :=
  match d.field? name place v with
  | none => some default
  | some f => convert f

/-- A text that may be absent. -/
def optional? (name : String) (place : Nat) (v : α) : Option (Option String) :=
  match d.field? name place v with
  | none => some none
  | some f => if d.isNull f then some none else (d.text? f).map some

/-- A group of at most `arity` fields. -/
def group? (arity : Nat) (v : α) : Option α :=
  if d.isGroup arity v then some v else none

end Dialect

variable {α : Type} (d : Dialect α)

/-- The server settings of a group. -/
def ServerSettings.decode? (v : α) : Option ServerSettings := do
  let v ← d.group? 4 v
  let preset : ServerSettings := {}
  return {
    host := ← d.required? d.text? preset.host "host" 0 v
    port := UInt16.ofNat (← d.required? (d.word? 65535) preset.port.toNat "port" 1 v)
    logLevel := ← d.required? d.text? preset.logLevel "log_level" 2 v
    logFormat := ← d.required? d.text? preset.logFormat "log_format" 3 v }

/-- The storage settings of a group. -/
def StorageSettings.decode? (v : α) : Option StorageSettings := do
  let v ← d.group? 2 v
  let preset : StorageSettings := {}
  return {
    databaseUrl := ← d.optional? "database_url" 0 v
    pageSize := UInt32.ofNat
      (← d.required? (d.word? 4294967295) preset.pageSize.toNat "page_size" 1 v) }

/-- The price source of a group. -/
def decodePrices? (v : α) : Option Pricing.PriceSource := do
  let v ← d.group? 2 v
  return ⟨← d.optional? "json" 0 v, ← d.optional? "path" 1 v⟩

/-- **The settings** of a value. -/
def Settings.decode? (v : α) : Option Settings := do
  let v ← d.group? 3 v
  return {
    server := ← d.required? (ServerSettings.decode? d) {} "server" 0 v
    storage := ← d.required? (StorageSettings.decode? d) {} "storage" 1 v
    prices := ← d.required? (decodePrices? d) .absent "pricing" 2 v }

end CallMeter
