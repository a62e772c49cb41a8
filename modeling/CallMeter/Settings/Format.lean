import CallMeter.Ini.Reader
import CallMeter.Json.Reader
import CallMeter.Json5.Reader
import CallMeter.Ron.Reader
import CallMeter.Toml.Reader
import CallMeter.Yaml.Reader

/-!
# Formats of settings

A settings file is in one of six formats, which the extension of its name tells. Its settings
have names: a text that spells a list or a scalar holds none.

## Main definitions

* `SettingsFormat`: the formats and their extensions
* `SettingsFormat.read`: the settings of a text by name

## Main results

* `ofExtension?_of_mem`: an extension belongs to one format
-/

namespace CallMeter

/-- **Format** of a settings file. -/
inductive SettingsFormat
  | toml
  | json
  | yaml
  | ini
  | ron
  | json5
  deriving DecidableEq

namespace SettingsFormat

/-- The formats in the order in which files are looked for. -/
def all : List SettingsFormat :=
  [toml, json, yaml, ini, ron, json5]

/-- The extensions of a format. -/
def extensions : SettingsFormat → List String
  | toml => ["toml"]
  | json => ["json"]
  | yaml => ["yaml", "yml"]
  | ini => ["ini"]
  | ron => ["ron"]
  | json5 => ["json5"]

/-- The format that an extension tells. -/
def ofExtension? (extension : String) : Option SettingsFormat :=
  all.find? fun f => f.extensions.contains extension

theorem ofExtension?_of_mem {f : SettingsFormat} {extension : String}
    (h : extension ∈ f.extensions) : ofExtension? extension = some f := by
  cases f <;> simp only [extensions, List.mem_cons, List.not_mem_nil, or_false] at h
  all_goals rcases h with rfl | rfl <;> rfl

end SettingsFormat

mutual

/-- The setting of a JSON value. Integers past 63 bits are doubles. -/
def Setting.ofJson : Json → Setting
  | .null => .absent
  | .bool b => .flag b
  | .number (.natural n) =>
    if n.toNat < UInt64.size / 2 then .integer n.toNat else .real n.toFloat
  | .number (.negative m) => .integer (-m.toNat)
  | .number (.double x) => .real x
  | .string s => .text s
  | .array items => .list (Setting.ofJsonItems items)
  | .object members => .group (Setting.ofJsonMembers members)

/-- The settings of items. -/
def Setting.ofJsonItems : List Json → List Setting
  | [] => []
  | v :: r => Setting.ofJson v :: Setting.ofJsonItems r

/-- The settings of members. -/
def Setting.ofJsonMembers : List (String × Json) → List (String × Setting)
  | [] => []
  | (k, v) :: r => (k, Setting.ofJson v) :: Setting.ofJsonMembers r

end

/-- The entries of a group. -/
def Setting.group? : Setting → Option (List (String × Setting))
  | .group es => some es
  | _ => none

namespace SettingsFormat

/-- The settings of the documents of a YAML text. Without a document there are none. -/
def readYaml (text : String) : Except ReadFault (List (String × Setting)) :=
  match Yaml.parse? text with
  | some [] => .ok []
  | some [v] => do ((← v.toSetting).group?).elim (.error .malformed) .ok
  | _ => .error .malformed

/-- **The settings of a text** by name. -/
def read (format : SettingsFormat) (text : String) :
    Except ReadFault (List (String × Setting)) :=
  let checked (es? : Option (List (String × Setting))) :=
    es?.elim (.error ReadFault.malformed) .ok
  match format with
  | toml => checked (Toml.parse? text)
  | json => checked ((Json.parse? text).bind fun v => (Setting.ofJson v).group?)
  | yaml => readYaml text
  | ini => checked (Ini.parse? text)
  | ron => checked ((Ron.parse? text).bind Setting.group?)
  | json5 => checked ((Json5.parse? text).bind Setting.group?)

end SettingsFormat

end CallMeter
