import CallMeter.Store.Scan
import CallMeter.Usage.Metrics
import CallMeter.Usage.Summary

/-!
# The summary service

A summary reads all records of a tenant in a window, folds them into tallies, looks up the
profiles of the use cases and prices the figures. A store fault ends it; nothing partial is
answered. Every summary counts in the metrics, its scan as soon as it succeeded.

## Main definitions

* `Portal`: a store and the metrics
* `summaryOfRecords`: the summary of records already read
* `Portal.summarize`: the summary of a tenant and window
* `Portal.summaryAt`: the summary of a tenant and the last days
-/

namespace CallMeter

open Pricing (RateCard)

variable {σ : Type} [CallStore σ]

/-- **Portal**: a store and what was counted over it. -/
structure Portal (σ : Type) where
  store : σ
  metrics : Metrics

/-- The query of a tenant and window. -/
def Window.query (w : Window) (tenant : String) : RecordQuery :=
  ⟨tenant, w.startIso, w.endIso⟩

/-- The summary of records that were read, with the profiles that the store holds. -/
def summaryOfRecords (s : σ) (card : RateCard) (tenant : String) (window : Window)
    (records : List CallRecord) : Except StoreFault Summary × σ :=
  let usage := Usage.ofRecords records
  let (profiles, s) := resolveProfiles s tenant (usage.byUseCase.map Prod.fst)
  (profiles.map fun known => .build tenant window usage known card, s)

namespace Portal

/-- A portal over a store, with nothing counted. -/
def ofStore (s : σ) : Portal σ :=
  ⟨s, .none⟩

variable (p : Portal σ)

/-- **The summary** of a tenant and window. -/
def summarize (card : RateCard) (tenant : String) (window : Window) :
    Except ServiceFault Summary × Portal σ :=
  let failed (fault : StoreFault) (s : σ) (m : Metrics) :
      Except ServiceFault Summary × Portal σ :=
    (.error (.store fault), ⟨s, m.finished (ServiceFault.store fault).kind⟩)
  match readRecords p.store (window.query tenant) with
  | (.error fault, s) => failed fault s p.metrics
  | (.ok records, s) =>
    -- the scan counts even if the profiles cannot be read
    let m := p.metrics.scanned records.length
    match summaryOfRecords s card tenant window records with
    | (.error fault, s) => failed fault s m
    | (.ok summary, s) => (.ok summary, ⟨s, m.finished "ok"⟩)

/-- The summary of the last `days` days up to `now`, unless they start before the first year. -/
def summaryAt (card : RateCard) (tenant : String) (days : Int) (now : Time.Instant) :
    Option (Except ServiceFault Summary × Portal σ) :=
  (Window.endingAt now (clampDays days)).map (p.summarize card tenant)

end Portal

end CallMeter
