import CallMeter.Files.Tree
import CallMeter.Settings.Basic
import CallMeter.Store.Opening

/-!
# Store locations

A location names the database file of a table store, with options after a question mark. The
store is held in memory when the location says so and is temporary when the path is empty. A
database that does not exist is created in a directory that does, and an empty file becomes one,
unless the location is read only. Dots in the path are followed by name alone, before anything is
looked up.

## Main definitions

* `Location`, `Location.ofUrl`: a location and its text
* `Location.opening`: how its database is opened
* `tidyPath`: a path without dots
* `Location.connect`, `StorageSettings.connect`: the store at a location and of the settings

## Main results

* `connect_readOnly`: a read-only location creates no file
-/

namespace CallMeter

/-- **Location** of a table store. -/
structure Location where
  /-- The path of the file, or its `file:` form. -/
  name : String
  inMemory : Bool := false
  readOnly : Bool := false
  immutable : Bool := false
  /-- The layer through which files are reached, the usual one when there is none. -/
  layer : Option String := none
  deriving DecidableEq

namespace Location

/-- A text without `lead` at its start, as often as it stands there. -/
def dropLead (lead : List Char) : (fuel : Nat) → List Char → List Char
  | 0, cs => cs
  | fuel + 1, cs => if lead.isPrefixOf cs then dropLead lead fuel (cs.drop lead.length) else cs

/-- The part of a location after its scheme. -/
def dropScheme (cs : List Char) : List Char :=
  let cs := dropLead "sqlite://".toList cs.length cs
  dropLead "sqlite:".toList cs.length cs

/-- One option of a location. -/
def setOption (l : Location) : String × String → Except ConfigFault Location
  | ("mode", "ro") => .ok { l with readOnly := true }
  -- a missing file is created in this mode too
  | ("mode", "rw") => .ok l
  | ("mode", "rwc") => .ok l
  | ("mode", "memory") => .ok { l with inMemory := true }
  | ("mode", value) => .error (.badLocation ("unknown value " ++ value ++ " for mode"))
  | ("cache", "private") => .ok l
  | ("cache", "shared") => .ok l
  | ("cache", value) => .error (.badLocation ("unknown value " ++ value ++ " for cache"))
  | ("immutable", "true") => .ok { l with immutable := true }
  | ("immutable", "1") => .ok { l with immutable := true }
  | ("immutable", "false") => .ok { l with immutable := false }
  | ("immutable", "0") => .ok { l with immutable := false }
  | ("immutable", value) => .error (.badLocation ("unknown value " ++ value ++ " for immutable"))
  | ("vfs", value) => .ok { l with layer := some value }
  | (name, _) => .error (.badLocation ("unknown query parameter " ++ name))

/-- **The location** that a text names. -/
def ofUrl (url : String) : Except ConfigFault Location := do
  -- the path is decoded after the cut, so that it may hold an escaped question mark
  let (database, options) := Text.cut '?' (dropScheme url.toList)
  let base ←
    if String.ofList database == ":memory:" then pure { name := "", inMemory := true }
    else
      match Text.Utf8.decode? (Text.Percent.decode database) with
      | some name => pure { name := name }
      | none => throw (.badLocation "invalid utf-8 sequence")
  (Text.Percent.formFields (options.getD [])).foldlM setOption base

/-- The name under which the database is opened: options of the location that concern the file
go along in `file:` form. -/
def openingName (l : Location) : String :=
  let options := (if l.immutable then ["immutable=true"] else []) ++
    (l.layer.map ("vfs=" ++ ·)).toList
  if options.isEmpty then l.name else "file:" ++ l.name ++ "?" ++ "&".intercalate options

/-- **The opening** of a location. A missing file is created unless the location says
otherwise. -/
def opening (l : Location) : Except StoreFault Opening :=
  Opening.ofName l.openingName (if l.readOnly then .readOnly else .create) l.inMemory

end Location

theorem lt_max_one (pageSize : Nat) : 0 < max pageSize 1 := by
  omega

/-- A table with pages of `pageSize` rows, at least one. -/
def TableStore.paged (s : TableStore) (pageSize : Nat) : TableStore :=
  { s with pageSize := max pageSize 1, pageSize_pos := lt_max_one pageSize }

/-- The fault of a file that cannot be opened. -/
def cannotOpen : StoreFault :=
  .unreachable "unable to open database file"

/-- The fault of a database that cannot be written. -/
def cannotWrite : StoreFault :=
  .unreachable "attempt to write a readonly database"

/-- The store of a new database, when it can be written. -/
def Opening.fresh (o : Opening) (pageSize : Nat) : Except StoreFault TableStore :=
  if o.isReadOnly then .error cannotWrite else .ok (.empty pageSize)

/-- The most bytes of a file name. -/
def maxNameBytes : Nat := 255

/-- The path has room for the name of a journal beside the file. -/
def hasJournalRoom (path : String) : Bool :=
  ((namesOf path).getLast?.getD "").utf8ByteSize + "-journal".utf8ByteSize ≤ maxNameBytes

/-- The store of a file, and whether the file is created. -/
def FileEntry.connect (entry : FileEntry) (o : Opening) (pageSize : Nat) :
    Except StoreFault (TableStore × Bool) :=
  match entry with
  | .database s =>
    -- the log of a database in use cannot be shared through every layer
    if Opening.plainLayers.contains o.layer && !o.immutable then .error cannotOpen
    else .ok (s.paged pageSize, false)
  | .text content =>
    -- a file of one byte counts as empty
    if content.utf8ByteSize ≤ 1 then (o.fresh pageSize).map fun s => (s, false)
    else .error (.unreachable "file is not a database")
  | .vacant =>
    if o.access == some .create && hasJournalRoom o.path then
      (o.fresh pageSize).map fun s => (s, true)
    else .error cannotOpen
  | .binary => .error (.unreachable "file is not a database")
  | .directory => .error cannotOpen
  | .nowhere => .error cannotOpen

/-- **Connection**: a store, and the path of the file that was created for it. -/
structure Connection where
  store : TableStore
  created : Option String

/-- The path of names, the last one first. -/
def pathOfNames (absolute : Bool) (rev : List String) : String :=
  if absolute then "/" ++ "/".intercalate rev.reverse
  else if rev.isEmpty then "."
  else "/".intercalate rev.reverse

/-- One name more: double dots take back the last name, whether it is there or not, and any
other name must be short and may not follow a file. -/
def tidyStep {m : Type → Type} [Monad m] (look : String → m FileEntry) (absolute : Bool)
    (rev : List String) (name : String) : m (Option (List String)) := do
  if name == ".." then
    match rev with
    | [] => return some (if absolute then [] else [".."])
    | last :: rest => return some (if last == ".." then ".." :: last :: rest else rest)
  else
    let isFile := match ← look (pathOfNames absolute rev) with
      | .text _ => true
      | .binary => true
      | .database _ => true
      | _ => false
    return if isFile || maxNameBytes < name.utf8ByteSize then none else some (name :: rev)

/-- **A path without detours**: dots are followed by name alone. -/
def tidyPath {m : Type → Type} [Monad m] (look : String → m FileEntry) (path : String) :
    m (Option String) := do
  let absolute := isAbsolute path
  let rev ← (namesOf path).foldlM
    (fun (rev : Option (List String)) name => match rev with
      | none => pure none
      | some rev => tidyStep look absolute rev name) (some [])
  return rev.map (pathOfNames absolute)

/-- **The store of an opening.** -/
def Opening.connect {m : Type → Type} [Monad m] (look : String → m FileEntry) (o : Opening)
    (pageSize : Nat) : m (Except StoreFault Connection) := do
  if o.isFileless then return (o.fresh pageSize).map fun s => ⟨s, none⟩
  else
    match ← tidyPath look o.path with
    | none => return .error cannotOpen
    | some path =>
      let entry ← look path
      return (entry.connect o pageSize).map fun (s, isNew) => ⟨s, if isNew then some path else none⟩

/-- **The store at a location.** -/
def Location.connect {m : Type → Type} [Monad m] (look : String → m FileEntry) (l : Location)
    (pageSize : Nat) : m (Except StoreFault Connection) :=
  match l.opening with
  | .error fault => pure (.error fault)
  | .ok o => o.connect look pageSize

theorem connect_readOnly {entry : FileEntry} {o : Opening} {pageSize : Nat} {s : TableStore}
    {isNew : Bool} (ho : o.access = some .readOnly)
    (h : entry.connect o pageSize = .ok (s, isNew)) : isNew = false := by
  have refused (n : Nat) : o.fresh n = .error cannotWrite := by
    simp [Opening.fresh, Opening.isReadOnly, ho]
  unfold FileEntry.connect at h
  simp only [refused, ho] at h
  split at h <;> (try split at h) <;> simp_all [Except.map]

/-- **The store of the settings**: their location must be set and well formed. -/
def StorageSettings.connect {m : Type → Type} [Monad m] (look : String → m FileEntry)
    (s : StorageSettings) : m (Except ServiceFault Connection) :=
  match s.database.bind Location.ofUrl with
  | .error fault => pure (.error (.config fault))
  | .ok l => do
    return (← l.connect look s.pageSize.toNat).mapError .store

end CallMeter
