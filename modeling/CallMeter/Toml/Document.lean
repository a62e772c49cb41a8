import CallMeter.Settings.Tree

/-!
# TOML documents

A document is built statement by statement. A header opens a table for the keys after it, and
the tables on the way to it if need be; a table is opened by its header once. Dotted keys build
tables of their own, which no header opens, and lead to them through tables that no header has
opened. A double header adds a table to an array of tables. A key is given once.

## Main definitions

* `Node`: a value, a table with the way it came about, or an array of tables
* `openTable?`, `openElement?`, `assign?`: the statements
* `Node.toSetting`: the settings of a document
-/

namespace CallMeter.Toml

/-- How a table came about. -/
inductive Origin
  /-- On the way to the table of a header. -/
  | passed
  /-- By its header. -/
  | header
  /-- By a dotted key. -/
  | dotted

/-- **Node** of a document. -/
inductive Node
  | value (s : Setting)
  | table (origin : Origin) (entries : List (String × Node))
  /-- The tables of an array, the last one first. -/
  | tables (elements : List (List (String × Node)))

/-- The entries of a table. -/
abbrev Table := List (String × Node)

/-- The document after the header of a table. -/
def openTable? : List String → Table → Option Table
  | [], _ => none
  | [k], es =>
    match Entries.get? k es with
    | none => some (Entries.put k (.table .header []) es)
    -- passed on the way to another table, and now opened
    | some (.table .passed sub) => some (Entries.put k (.table .header sub) es)
    | _ => none
  | k :: rest, es =>
    match Entries.get? k es with
    | none => (openTable? rest []).map fun sub => Entries.put k (.table .passed sub) es
    | some (.table origin sub) =>
      (openTable? rest sub).map fun sub => Entries.put k (.table origin sub) es
    | some (.tables (last :: older)) =>
      (openTable? rest last).map fun last => Entries.put k (.tables (last :: older)) es
    | _ => none

/-- The document after the header of an element of an array of tables. -/
def openElement? : List String → Table → Option Table
  | [], _ => none
  | [k], es =>
    match Entries.get? k es with
    | none => some (Entries.put k (.tables [[]]) es)
    | some (.tables all) => some (Entries.put k (.tables ([] :: all)) es)
    | _ => none
  | k :: rest, es =>
    match Entries.get? k es with
    | none => (openElement? rest []).map fun sub => Entries.put k (.table .passed sub) es
    | some (.table origin sub) =>
      (openElement? rest sub).map fun sub => Entries.put k (.table origin sub) es
    | some (.tables (last :: older)) =>
      (openElement? rest last).map fun last => Entries.put k (.tables (last :: older)) es
    | _ => none

/-- A dotted key leads through a table: always through those of dotted keys, and through those
without a header of their own when `onward`, on the way to another table. -/
def Origin.admits (onward : Bool) : Origin → Bool
  | passed => onward
  | header => false
  | dotted => true

/-- The table after a dotted key is given a value. -/
def assign? (s : Setting) : List String → Table → Option Table
  | [], _ => none
  | [k], es =>
    match Entries.get? k es with
    | none => some (Entries.put k (.value s) es)
    | some _ => none
  | k :: l :: rest, es =>
    -- the table of the last key is the only one that the key extends
    let onward := !rest.isEmpty
    match Entries.get? k es with
    | none => (assign? s (l :: rest) []).map fun sub => Entries.put k (.table .dotted sub) es
    | some (.table origin sub) =>
      if origin.admits onward then
        (assign? s (l :: rest) sub).map fun sub => Entries.put k (.table origin sub) es
      else none
    | some (.tables (last :: older)) =>
      if onward then
        (assign? s (l :: rest) last).map fun last => Entries.put k (.tables (last :: older)) es
      else none
    | _ => none

/-- The document after a key of the table under a header. -/
def assignUnder? (s : Setting) (keys : List String) : List String → Table → Option Table
  | [], es => assign? s keys es
  | k :: rest, es =>
    match Entries.get? k es with
    | some (.table origin sub) =>
      (assignUnder? s keys rest sub).map fun sub => Entries.put k (.table origin sub) es
    | some (.tables (last :: older)) =>
      (assignUnder? s keys rest last).map fun last => Entries.put k (.tables (last :: older)) es
    | _ => none

mutual

/-- **The settings** of a node. -/
def Node.toSetting : Node → Setting
  | .value s => s
  | .table _ es => .group (settingsOf es)
  | .tables elements => .list (groupsOf elements).reverse

/-- The settings of the entries of a table. -/
def settingsOf : List (String × Node) → List (String × Setting)
  | [] => []
  | (k, n) :: r => (k, n.toSetting) :: settingsOf r

/-- The settings of the elements of an array of tables. -/
def groupsOf : List (List (String × Node)) → List Setting
  | [] => []
  | es :: r => .group (settingsOf es) :: groupsOf r

end

end CallMeter.Toml
