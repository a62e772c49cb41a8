import CallMeter.Store.Basic

/-!
# Scans

A scan reads the records of a query page by page, from the first page on, as long as a page
names a cursor. The first page that fails ends it. Every page but the last moves past at least
one record, so a scan reads at most one page more than there are records.

## Main definitions

* `scanFrom`: a scan from a cursor, with a bound on its pages
* `readRecords`: all records of a query
-/

namespace CallMeter

variable {σ : Type} [CallStore σ]

/-- At most `pages` pages of a scan, from `cursor` on. -/
def scanFrom (q : RecordQuery) :
    (pages : Nat) → σ → Option String → Except StoreFault (List CallRecord) × σ
  | 0, s, _ => (.ok [], s)
  | n + 1, s, cursor =>
    match CallStore.queryPage s q cursor with
    | (.error fault, s) => (.error fault, s)
    | (.ok page, s) =>
      match page.next with
      | none => (.ok page.records, s)
      | some next =>
        -- a fault on a later page drops the records read so far
        let (rest, s) := scanFrom q n s (some next)
        (rest.map (page.records ++ ·), s)

/-- **All records** of a query, in the order of the store. -/
def readRecords (s : σ) (q : RecordQuery) : Except StoreFault (List CallRecord) × σ :=
  scanFrom q (CallStore.held s + 1) s none

end CallMeter
