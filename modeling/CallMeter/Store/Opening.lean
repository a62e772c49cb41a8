import CallMeter.Fault
import CallMeter.Text.Percent

/-!
# Opening a database

A name is a path as it stands or a path in `file:` form. The latter may name this machine in
front of the path and options after a question mark: the layer that reaches files, how the
cache is shared, and an access, which may not go beyond what the caller allows.

## Main definitions

* `Access`, `Opening`: how a database is opened
* `Opening.ofName`: the opening that a name asks for
-/

namespace CallMeter

/-- **Access** to a database file. -/
inductive Access
  | readOnly
  /-- Reading and writing a file that is there. -/
  | existing
  /-- Reading and writing a file that may have to be created. -/
  | create
  deriving DecidableEq

/-- How far an access goes. -/
def Access.reach : Access → Nat
  | readOnly => 1
  | existing => 2
  | create => 6

/-- **Opening**: a path and how the database at it is opened. -/
structure Opening where
  path : String
  /-- No access at all leaves only a store in memory. -/
  access : Option Access
  inMemory : Bool
  /-- The file does not change while it is open. -/
  immutable : Bool := false
  layer : String := "unix"
  deriving DecidableEq

namespace Opening

/-- How far an option may go: a store in memory allows every access. -/
def limit (o : Opening) : Nat :=
  (o.access.map Access.reach).getD 0 + if o.inMemory then 128 else 0

/-- An option for an access. -/
def setAccess (o : Opening) (a : Access) : Except StoreFault Opening :=
  if o.limit < a.reach then .error (.unreachable "access mode not allowed")
  else .ok { o with access := some a, inMemory := false }

/-- One option. Those without a meaning here do not count. -/
def setOption (o : Opening) : String × String → Except StoreFault Opening
  | ("vfs", name) => .ok { o with layer := name }
  | ("cache", "shared") => .ok o
  | ("cache", "private") => .ok o
  | ("cache", value) => .error (.unreachable ("no such cache mode: " ++ value))
  | ("mode", "ro") => o.setAccess .readOnly
  | ("mode", "rw") => o.setAccess .existing
  | ("mode", "rwc") => o.setAccess .create
  | ("mode", "memory") => .ok { o with access := none, inMemory := true }
  | ("mode", value) => .error (.unreachable ("no such access mode: " ++ value))
  | _ => .ok o

/-- The text that escapes spell, up to the first zero byte. -/
def component (cs : List Char) : String :=
  Text.Utf8.decodeLossy ((Text.Percent.decode cs).takeWhile (· != 0))

/-- The options after a question mark. One without a name does not count. -/
def optionsOf (query : List Char) : List (String × String) :=
  (Text.splitOn '&' query).filterMap fun field =>
    let (name, value) := Text.cut '=' field
    let name := component name
    if name.isEmpty then none else some (name, component (value.getD []))

/-- A text that stands for yes: a number other than zero, or a word. -/
def isYes (text : String) : Bool :=
  let digits := text.toList.takeWhile Char.isDigit
  let word := String.ofList (text.toList.map Char.toLower)
  if digits.isEmpty then word == "on" || word == "yes" || word == "true"
  else
    let n := Nat.ofDigitChars 10 digits 0
    n < UInt32.size / 2 && n % 256 != 0

/-- The part of a `file:` name after the authority, which must be empty or this machine. -/
def dropAuthority? : List Char → Option (List Char)
  | '/' :: '/' :: r =>
    let authority := String.ofList (r.takeWhile (· != '/'))
    if authority == "" || authority == "localhost" then some (r.dropWhile (· != '/')) else none
  | r => some r

/-- The opening of a `file:` name, given what follows the scheme. -/
def ofUri (o : Opening) (cs : List Char) : Except StoreFault Opening :=
  match dropAuthority? cs with
  | none => .error (.unreachable "invalid uri authority")
  | some r =>
    -- a fragment does not count, but its mark may be escaped in a path
    let (path, query) := Text.cut '?' (Text.cut '#' r).1
    let options := optionsOf (query.getD [])
    let immutable := (options.find? fun option => option.1 == "immutable").any fun option =>
      isYes option.2
    options.foldlM setOption { o with path := component path, immutable := immutable }

/-- The layers through which files are reached. -/
def layers : List String := ["unix", "unix-excl", "unix-none", "unix-dotfile", "memdb"]

/-- The layers that cannot share a file which is written ahead. -/
def plainLayers : List String := ["unix-none", "unix-dotfile"]

/-- What `file:` names begin with. -/
def scheme : List Char := "file:".toList

/-- **The opening** that a name asks for. -/
def ofName (name : String) (access : Access) (inMemory : Bool) : Except StoreFault Opening :=
  let plain : Opening := { path := name, access := some access, inMemory := inMemory }
  let cs := name.toList
  if cs.contains '\x00' then .error (.unreachable "the name contains a zero byte")
  else do
    let o ← if scheme.isPrefixOf cs then ofUri plain (cs.drop scheme.length) else pure plain
    if layers.contains o.layer then pure o
    else throw (.unreachable ("no such vfs: " ++ o.layer))

/-- The database has no file: it lives in memory, or in a temporary one. -/
def isFileless (o : Opening) : Bool :=
  o.inMemory || o.path.isEmpty || o.path == ":memory:" || o.layer == "memdb"

/-- Nothing can be written. A temporary database takes no notice of an immutable file. -/
def isReadOnly (o : Opening) : Bool :=
  o.access == some .readOnly || (o.immutable && !(o.isFileless && o.layer != "memdb"))

end Opening

end CallMeter
