import CallMeter.Files.Entry
import CallMeter.Settings.Format
import CallMeter.Text.Split

/-!
# The settings file

The settings file is the file at the given path, which must have the extension of a format.
Where there is no file, the path with each extension added is tried in turn. A file of another
kind does not count, and neither does a missing one.

## Main definitions

* `extension?`: the end of the last name of a path
* `SettingsFile`: the text of a settings file and its format
* `settingsFile`: the settings file of a path
-/

namespace CallMeter

/-- **A settings file**. -/
structure SettingsFile where
  format : SettingsFormat
  text : String

/-- The settings file with some content, without the byte order mark in front. -/
def SettingsFile.ofContent (format : SettingsFormat) (content : String) : SettingsFile :=
  match content.toList with
  | '\uFEFF' :: r => ⟨format, String.ofList r⟩
  | _ => ⟨format, content⟩

/-- A path, given in reverse, without what leads nowhere at its end: slashes and single dots. -/
def dropTail : List Char → List Char
  | '/' :: r => dropTail r
  | '.' :: '/' :: r => dropTail ('/' :: r)
  | r => r
termination_by cs => cs.length

/-- The path of a file with an extension still to come. -/
def stemOf (path : String) : String :=
  String.ofList (dropTail path.toList.reverse).reverse

/-- The last name of a path. -/
def lastName (path : String) : List Char :=
  ((Text.splitOn '/' (stemOf path).toList).getLast?).getD []

/-- **The extension**: what follows the last dot of the last name, when something stands before
the dot. -/
def extension? (path : String) : Option String :=
  let (tail, stem) := Text.cut '.' (lastName path).reverse
  match stem with
  | none => none
  -- a name that begins with its only dot has no extension
  | some [] => none
  | some ['.'] => if tail.isEmpty then none else some (String.ofList tail.reverse)
  | some _ => some (String.ofList tail.reverse)

/-- A path whose last name is that of a file. -/
def namesFile (path : String) : Bool :=
  !(["", ".", ".."].contains (String.ofList (lastName path)))

/-- The first file whose path is `stem` with one of the extensions. -/
def firstFile {m : Type → Type} [Monad m] (look : String → m FileEntry) (stem : String) :
    List (SettingsFormat × String) → m (Option SettingsFile)
  | [] => return none
  | (format, extension) :: rest => do
    match ← look (stem ++ "." ++ extension) with
    | .text content => return some (.ofContent format content)
    | _ => firstFile look stem rest

/-- The extensions of all formats. -/
def formatExtensions : List (SettingsFormat × String) :=
  SettingsFormat.all.flatMap fun f => f.extensions.map fun extension => (f, extension)

/-- **The settings file** of a path, if there is one. -/
def settingsFile {m : Type → Type} [Monad m] (look : String → m FileEntry) (path : String) :
    m (Option SettingsFile) := do
  match ← look path with
  | .vacant => second
  | .nowhere => second
  | .directory => second
  | .text content =>
    return do
      let format ← SettingsFormat.ofExtension? (← extension? path)
      return .ofContent format content
  | .binary => return none
  | .database _ => return none
where
  second :=
    if namesFile path then firstFile look (stemOf path) formatExtensions else return none

end CallMeter
