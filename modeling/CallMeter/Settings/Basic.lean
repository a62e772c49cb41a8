import CallMeter.Fault
import CallMeter.Pricing.Reader
import CallMeter.Text.Blank

/-!
# Settings

## Main definitions

* `ServerSettings`, `StorageSettings`, `Settings`: the settings and their defaults
* `Settings.fault?`: why settings are refused
* `StorageSettings.database`: where the records are

## Main results

* `fault?_default`: the defaults are accepted
-/

namespace CallMeter

/-- Where the service listens and how it logs. -/
structure ServerSettings where
  host : String := "0.0.0.0"
  port : UInt16 := 8080
  logLevel : String := "info"
  logFormat : String := "text"
  deriving DecidableEq

/-- Where the records are and how many are read at a time. -/
structure StorageSettings where
  databaseUrl : Option String := none
  pageSize : UInt32 := 500
  deriving DecidableEq

/-- **Settings**. -/
structure Settings where
  server : ServerSettings := {}
  storage : StorageSettings := {}
  prices : Pricing.PriceSource := .absent
  deriving DecidableEq

/-- The largest page. -/
def maxPageSize : UInt32 := 1000

/-- **Why settings are refused**. -/
inductive SettingsFault
  | emptyHost
  | zeroPort
  | logFormat (format : String)
  | pageSize (size : UInt32)
  deriving DecidableEq

/-- The reason in words. -/
def SettingsFault.message : SettingsFault → String
  | emptyHost => "server.host cannot be empty"
  | zeroPort => "server.port must be non-zero"
  | logFormat format => "Invalid log format: " ++ format ++ " (expected 'text' or 'json')"
  | pageSize size =>
    "storage.page_size must be between 1 and " ++ toString maxPageSize.toNat ++ ", got " ++
      toString size.toNat

/-- The location of the records, without white space around it. -/
def StorageSettings.database (s : StorageSettings) : Except ConfigFault String :=
  match (s.databaseUrl.map Text.trim).filter fun url => !url.isEmpty with
  | some url => .ok url
  | none => .error .databaseUnset

/-- **The first reason** to refuse settings, if there is one. -/
def Settings.fault? (s : Settings) : Option SettingsFault :=
  if Text.isBlank s.server.host then some .emptyHost
  else if s.server.port == 0 then some .zeroPort
  else if s.server.logFormat != "text" && s.server.logFormat != "json" then
    some (.logFormat s.server.logFormat)
  else if s.storage.pageSize == 0 || maxPageSize < s.storage.pageSize then
    some (.pageSize s.storage.pageSize)
  else none

theorem fault?_default : ({} : Settings).fault? = none := by
  decide +kernel

end CallMeter
