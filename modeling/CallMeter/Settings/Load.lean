import CallMeter.Settings.Decode
import CallMeter.Settings.Path
import CallMeter.Settings.Source

/-!
# Loading settings

Settings come from a file, if there is one, and from variables of the environment, which come
after the file. The keys of the file are paths to settings. The name of a variable begins with
`usage_portal__` in any case; the rest of it is a path with two underscores for each dot.

## Main definitions

* `settingPath?`: the path that the name of a variable stands for
* `settingTree`: the settings of file and environment
* `Settings.load`: the settings that the service runs with
-/

namespace CallMeter

/-- **Why settings cannot be loaded**: they cannot be had, they do not convert, or they are
refused. -/
inductive LoadFault
  | unread (fault : ReadFault)
  | unconverted
  | refused (fault : SettingsFault)
  deriving DecidableEq

/-- What the names of variables begin with. -/
def variableLead : List Char := "usage_portal__".toList

/-- A text with a dot for every two underscores. -/
def dotted : List Char → List Char
  | '_' :: '_' :: r => '.' :: dotted r
  | c :: r => c :: dotted r
  | [] => []

/-- **The path** that the name of a variable stands for, if it is one of the service. -/
def settingPath? (name : String) : Option (List Setting.Step) :=
  let lowered := (Text.lowercase name).toList
  if variableLead.isPrefixOf lowered then
    some (Setting.path (String.ofList (dotted (lowered.drop variableLead.length))))
  else none

/-- The settings of file and environment with the paths that lead to them. -/
def settingEntries (file : Option SettingsFile) (environment : List (String × String)) :
    Except ReadFault (List (List Setting.Step × Setting)) := do
  let es ← match file with
    | none => pure []
    | some file => file.format.read file.text
  -- the variables come last, so they win over the file
  return es.map (fun (k, s) => (Setting.path k, s)) ++
    environment.filterMap fun (name, value) => (settingPath? name).map fun p => (p, .text value)

/-- **The settings** of file and environment. -/
def settingTree (file : Option SettingsFile) (environment : List (String × String)) :
    Except ReadFault Setting := do
  let entries ← settingEntries file environment
  let put (tree : Setting) (e : List Setting.Step × Setting) : Except ReadFault Setting :=
    (Setting.putAt e.2 e.1 (some tree)).elim (.error .misplaced) .ok
  entries.foldlM put (.group [])

/-- **Loading**: the settings of file and environment, checked. -/
def Settings.load (file : Option SettingsFile) (environment : List (String × String)) :
    Except LoadFault Settings :=
  match settingTree file environment with
  | .error fault => .error (.unread fault)
  | .ok tree =>
    match Settings.decode? treeDialect tree with
    | none => .error .unconverted
    | some settings =>
      match settings.fault? with
      | none => .ok settings
      | some fault => .error (.refused fault)

end CallMeter
