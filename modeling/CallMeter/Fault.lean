/-!
# Faults

What can keep the service from answering: a setting that is missing or wrong, a store that
cannot be read, or a failure inside. Bad records and bad prices are no faults; they are read
leniently.

## Main definitions

* `ConfigFault`, `StoreFault`, `ServiceFault`: the causes
* `ServiceFault.message`: a cause in words
* `ServiceFault.kind`, `ServiceFault.report`: its kind, and the kind with the words
-/

namespace CallMeter

/-- A setting that is missing or wrong. -/
inductive ConfigFault
  | databaseUnset
  | badLocation (detail : String)
  | other (detail : String)
  deriving DecidableEq

/-- **Store fault**: a read that failed. -/
inductive StoreFault
  /-- An injected failure of the page read with this number. -/
  | simulated (page : Nat)
  | badCursor (cursor : String)
  /-- A page that would end past the last offset; such a read stops short. -/
  | offsetOverflow
  | oversizedBatch (size : Nat)
  | badData (detail : String)
  | rowNotFound
  | missingMigration (version : Int)
  | unreachable (detail : String)
  deriving DecidableEq

/-- **Fault** of the service. -/
inductive ServiceFault
  | config (fault : ConfigFault)
  | store (fault : StoreFault)
  | internal (detail : String)
  deriving DecidableEq

/-- The most keys of one metadata read. -/
def maxBatchKeys : Nat := 100

/-- The cause in words. -/
def ConfigFault.message : ConfigFault → String
  | databaseUnset => "storage.database_url is not set"
  | badLocation detail => "Invalid database URL: " ++ detail
  | other detail => detail

/-- The cause in words. -/
def StoreFault.message : StoreFault → String
  | simulated page => "simulated failure on page " ++ toString page
  | badCursor cursor => "invalid continuation cursor: " ++ cursor
  | offsetOverflow => "attempt to add with overflow"
  | oversizedBatch size =>
    "batch of " ++ toString size ++ " keys exceeds limit of " ++ toString maxBatchKeys
  | badData detail => "encountered unexpected or invalid data: " ++ detail
  | rowNotFound => "no rows returned by a query that expected to return at least one row"
  | missingMigration version =>
    "migration failed: migration " ++ toString version ++
      " was previously applied but is missing in the resolved migrations"
  | unreachable detail => detail

namespace ServiceFault

/-- The cause in words. -/
def message : ServiceFault → String
  | config fault => fault.message
  | store fault => fault.message
  | internal detail => detail

/-- **Kind** of a fault, as reported to callers and counted in metrics. -/
def kind : ServiceFault → String
  | config _ => "config_error"
  | store _ => "store_unavailable"
  | internal _ => "internal_error"

/-- The kind with the words. -/
def report (fault : ServiceFault) : String :=
  match fault with
  | config _ => "Configuration error: " ++ fault.message
  | store _ => "Store unavailable: " ++ fault.message
  | internal _ => "Internal error: " ++ fault.message

end ServiceFault

end CallMeter
