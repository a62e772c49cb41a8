import CallMeter.Entries
import CallMeter.Fault
import CallMeter.Record

/-!
# Stores

A store keeps call records and the deployments of each tenant. The service reads it in two ways:
page by page through the records of a tenant in a window, and in batches through its
deployments. A page names the cursor of the next one as long as there may be one.

## Main definitions

* `RecordQuery`, `RecordPage`: a tenant and window, and a page of its records
* `Deployment`: what is stored about a use case
* `CallStore`: the reads of a store
-/

namespace CallMeter

/-- **Query**: the records of a tenant that start in a window of texts, both ends included. -/
structure RecordQuery where
  tenant : String
  startIso : String
  endIso : String
  deriving DecidableEq

/-- A start lies in the window of a query. -/
def RecordQuery.covers (q : RecordQuery) (start : String) : Bool :=
  q.startIso ≤ start && start ≤ q.endIso

/-- The start of an item, where it is a string. -/
def startOf? (item : Json) : Option String :=
  (item.field? "startedAt").bind Json.text?

/-- **Page** of records, with the cursor of the next page if there may be one. -/
structure RecordPage where
  records : List CallRecord
  next : Option String
  deriving DecidableEq

/-- **Deployment**: what is stored about a use case. -/
structure Deployment where
  useCase : String
  displayName : Option String
  modelHint : Option String
  modelId : Option String
  deriving DecidableEq

/-- Deployments by tenant and use case. -/
abbrev Deployments := List ((String × String) × Deployment)

/-- The deployments with one added, in place of an earlier one for the same use case. -/
def Deployments.add (tenant : String) (d : Deployment) (ds : Deployments) : Deployments :=
  Entries.put (tenant, d.useCase) d ds

/-- The deployment of a use case. -/
def Deployments.find? (tenant useCase : String) (ds : Deployments) : Option Deployment :=
  Entries.get? (tenant, useCase) ds

/-- **Store**: its two reads, each with the store it leaves behind, and the number of records
held, which bounds the pages of a scan. -/
class CallStore (σ : Type) where
  queryPage : σ → RecordQuery → Option String → Except StoreFault RecordPage × σ
  batch : σ → String → List String → Except StoreFault (List Deployment) × σ
  held : σ → Nat

end CallMeter
