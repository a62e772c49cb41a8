import CallMeter.Proofs.Json.Quoted
import CallMeter.Proofs.Store.Rows
import CallMeter.Proofs.Store.Scans

/-!
# Scans by key

A page of a table takes the next rows after the key of its cursor. On a tidy table the rows
after the last row of a page are what the page left, so the pages of a scan cut the rows of the
query into pieces. A full page names a cursor even if nothing follows it.

## Main definitions

* `TableStore.taken`: the rows of a page

## Main results

* `RowKey.decode?_encode`: a cursor denotes the key it was written for
* `select_taken_last`: after the last row of a page comes what the page left
* `scans_of_position`: a scan returns the rows after the key it starts from
* `readRecords_select`: all records of a query are those of its rows
* `scan_insertAll`: a scan of a written table is complete and exact
-/

namespace CallMeter

/-! ## Cursors -/

/-- **A cursor denotes its key**, whatever the characters of the start and the record id. -/
theorem RowKey.decode?_encode (k : RowKey) : decode? k.encode = some k := by
  obtain ⟨startedAt, id⟩ := k
  have read : Json.tokens? (Json.write (.array [.string startedAt, .string id])) =
      some [.openArray, .text startedAt, .comma, .text id, .closeArray] := by
    have e : Json.write (.array [.string startedAt, .string id]) =
        '[' :: (Json.quoted startedAt ++ ',' :: (Json.quoted id ++ [']'])) := by
      simp [Json.write, Json.writeItems, Json.writeMoreItems]
    calc Json.tokens? (Json.write (.array [.string startedAt, .string id]))
        = (do (← (Json.quoted startedAt ++ ',' :: (Json.quoted id ++ [']'])).foldlM
            Json.Lexer.step ⟨[.openArray], .gap⟩).finish) := by rw [e]; rfl
      _ = (do (← (Json.quoted id ++ [']']).foldlM Json.Lexer.step
            ⟨[.comma, .text startedAt, .openArray], .gap⟩).finish) := by
          rw [Json.lex_quoted]; rfl
      _ = some [.openArray, .text startedAt, .comma, .text id, .closeArray] := by
          rw [Json.lex_quoted]; rfl
  have parsed : Json.parse? (encode ⟨startedAt, id⟩) =
      some (.array [.string startedAt, .string id]) := by
    rw [Json.parse?, encode, Json.compact, String.toList_ofList, read]
    rfl
  rw [decode?, parsed]

namespace TableStore

theorem position_encode (k : RowKey) : position (some k.encode) = .ok k := by
  rw [position, RowKey.decode?_encode]

/-! ## The rows of a page -/

variable {s : TableStore} {q : RecordQuery} {k l : RowKey}

/-- **The rows of a page**: the first of the query after a key, no more than fit. -/
def taken (s : TableStore) (q : RecordQuery) (k : RowKey) : List Row :=
  (s.select q k).take s.pageSize

theorem mem_select {r : Row} :
    r ∈ s.select q k ↔
      r ∈ s.rows ∧ r.tenant = q.tenant ∧ q.startIso ≤ r.startedAt ∧ r.startedAt ≤ q.endIso ∧
        k.before r.key = true := by
  simp [select, RecordQuery.covers, and_assoc]

/-- No row starts before a window whose first text is not empty, so the first key hides none. -/
theorem origin_before_of_covers (h : q.startIso ≠ "") {r : Row}
    (covers : q.covers r.startedAt = true) : RowKey.origin.before r.key = true := by
  apply RowKey.origin_before_iff.mpr
  intro e
  have start : r.startedAt = "" := congrArg RowKey.startedAt e
  rw [RecordQuery.covers, start, Bool.and_eq_true, decide_eq_true_eq] at covers
  exact absurd ((RowKey.empty_lt_iff q.startIso).mpr h) (not_lt.mpr covers.1)

/-- The rows of a query are in strict order: equal keys of a tenant are the same row. -/
theorem Tidy.pairwise_select (h : s.Tidy) (q : RecordQuery) (k : RowKey) :
    (s.select q k).Pairwise fun a b => a.key.before b.key = true := by
  have apart : s.rows.Pairwise fun a b => a.slot ≠ b.slot := List.pairwise_map.mp h.slots
  refine ((h.inOrder.and apart).filter _).imp_of_mem ?_
  rintro a b ha hb ⟨hle, hne⟩
  rcases RowKey.before_trichotomy a.key b.key with hlt | heq | hgt
  · exact hlt
  · have ta := (mem_select.mp ha).2.1
    have tb := (mem_select.mp hb).2.1
    exact absurd (Prod.ext (ta.trans tb.symm) (congrArg RowKey.id heq)) hne
  · exact absurd hgt hle

theorem Tidy.nodup_select (h : s.Tidy) (q : RecordQuery) (k : RowKey) : (s.select q k).Nodup := by
  refine (h.pairwise_select q k).imp ?_
  rintro a b hab rfl
  exact RowKey.before_irrefl _ hab

/-- Going on from a later key leaves the rows after that key. -/
theorem select_of_before (hkl : k.before l = true) :
    s.select q l = (s.select q k).filter fun r => l.before r.key := by
  unfold select
  rw [List.filter_filter]
  apply List.filter_congr
  intro r _
  have later : l.before r.key = true → k.before r.key = true := RowKey.before_trans hkl
  cases hr : l.before r.key with
  | false => simp
  | true => simp [later hr]

theorem taken_sublist : (s.taken q k).Sublist (s.select q k) :=
  List.take_sublist _ _

theorem mem_select_of_last {last : Row} (hl : (s.taken q k).getLast? = some last) :
    last ∈ s.select q k :=
  taken_sublist.subset (List.mem_of_getLast? hl)

/-- The last row of a page is before none of its rows. -/
theorem Tidy.not_last_before (h : s.Tidy) {last r : Row}
    (hl : (s.taken q k).getLast? = some last) (hr : r ∈ s.taken q k) :
    ¬ last.key.before r.key = true := by
  obtain ⟨front, e⟩ := List.getLast?_eq_some_iff.mp hl
  have sorted := (h.pairwise_select q k).sublist taken_sublist
  rw [e, List.pairwise_append] at sorted
  rw [e, List.mem_append, List.mem_singleton] at hr
  rcases hr with hr | rfl
  · exact RowKey.before_asymm (sorted.2.2 r hr last (List.mem_singleton.mpr rfl))
  · exact RowKey.before_irrefl _

/-- **After the last row of a page** comes what the page left of the query. -/
theorem Tidy.select_taken_last (h : s.Tidy) {last : Row}
    (hl : (s.taken q k).getLast? = some last) :
    s.select q last.key = (s.select q k).drop s.pageSize := by
  have cut : s.select q k = s.taken q k ++ (s.select q k).drop s.pageSize :=
    (List.take_append_drop _ _).symm
  have sorted := h.pairwise_select q k
  rw [cut, List.pairwise_append] at sorted
  rw [select_of_before (mem_select.mp (mem_select_of_last hl)).2.2.2.2]
  conv_lhs => rw [cut]
  rw [List.filter_append, List.filter_eq_nil_iff.mpr fun r hr => h.not_last_before hl hr,
    List.nil_append, List.filter_eq_self.mpr fun r hr =>
      sorted.2.2 last (List.mem_of_getLast? hl) r hr]

/-! ## Page reads -/

theorem queryPage_of_position {c : Option String} (hc : position c = .ok k) :
    CallStore.queryPage s q c = (.ok (page (s.select q k) s.pageSize), s) := by
  show s.queryPage q c = _
  rw [queryPage, hc]
  rfl

theorem records_page :
    (page (s.select q k) s.pageSize).records =
      (s.taken q k).filterMap fun r => CallRecord.ofText? r.item := rfl

/-- A page that is not full is the last one, and leaves nothing. -/
theorem next_page_of_lt (h : (s.select q k).length < s.pageSize) :
    (page (s.select q k) s.pageSize).next = none ∧ s.taken q k = s.select q k := by
  have all : s.taken q k = s.select q k := List.take_of_length_le h.le
  refine ⟨?_, all⟩
  show (if (s.taken q k).length = s.pageSize then _ else _) = _
  rw [all, if_neg h.ne]

/-- A full page goes on from its last row. -/
theorem next_page_of_le (h : s.pageSize ≤ (s.select q k).length) :
    ∃ last, (s.taken q k).getLast? = some last ∧
      (page (s.select q k) s.pageSize).next = some last.key.encode := by
  have full : (s.taken q k).length = s.pageSize := by
    rw [taken, List.length_take, Nat.min_eq_left h]
  have hne : s.taken q k ≠ [] := by
    intro e
    rw [e] at full
    exact absurd s.pageSize_pos (full ▸ Nat.lt_irrefl 0)
  refine ⟨(s.taken q k).getLast hne, List.getLast?_eq_some_getLast hne, ?_⟩
  show (if (s.taken q k).length = s.pageSize then (s.taken q k).getLast?.map _ else _) = _
  rw [if_pos full, List.getLast?_eq_some_getLast hne]
  rfl

/-! ## Scans -/

/-- **A scan returns the rows after the key it starts from**, one page for each full piece of
them and one more. -/
theorem Tidy.scans_of_position (h : s.Tidy) (q : RecordQuery) {c : Option String}
    (hc : position c = .ok k) :
    Scans q s c ((s.select q k).length / s.pageSize + 1)
      (.ok ((s.select q k).filterMap fun r => CallRecord.ofText? r.item)) s := by
  induction hn : (s.select q k).length using Nat.strong_induction_on generalizing c k with
  | _ n ih =>
    have hpos := s.pageSize_pos
    rcases lt_or_ge n s.pageSize with hlt | hge
    · obtain ⟨hnone, hall⟩ := next_page_of_lt (s := s) (q := q) (k := k) (hn ▸ hlt)
      rw [Nat.div_eq_of_lt hlt, ← hall, ← records_page]
      exact Scans.last (queryPage_of_position hc) hnone
    · obtain ⟨last, hlast, hnext⟩ := next_page_of_le (s := s) (q := q) (k := k) (hn ▸ hge)
      have hdrop := h.select_taken_last hlast
      have hlen : (s.select q last.key).length = n - s.pageSize := by
        rw [hdrop, List.length_drop, hn]
      have rest := ih (n - s.pageSize) (by omega) (position_encode last.key) hlen
      rw [← Nat.div_eq_sub_div hpos hge] at rest
      have joined : (s.select q k).filterMap (fun r => CallRecord.ofText? r.item) =
          (page (s.select q k) s.pageSize).records ++
            (s.select q last.key).filterMap fun r => CallRecord.ofText? r.item := by
        rw [records_page, hdrop, ← List.filterMap_append, taken, List.take_append_drop]
      rw [joined]
      exact Scans.more (queryPage_of_position hc) hnext rest

/-- All records of a query are those of its rows after the first key. -/
theorem Tidy.readRecords_select (h : s.Tidy) (q : RecordQuery) :
    readRecords s q =
      (.ok ((s.select q .origin).filterMap fun r => CallRecord.ofText? r.item), s) := by
  refine readRecords_eq_of_scans (h.scans_of_position q (c := none) (k := .origin) rfl) ?_
  exact Nat.succ_le_succ ((Nat.div_le_self _ _).trans (List.length_filter_le _ _))

/-- **A scan of a written table is complete and exact.** The rows that stand after a run of
writes and lie in the window come out once each, in the order of start and record id, whatever
the page size; rows that do not decode are left out and cut nothing short. -/
theorem scan_insertAll (writes : List Row) (q : RecordQuery) :
    ∃ selected : List Row,
      selected.Pairwise (fun a b => a.key.before b.key = true) ∧
      (∀ r, r ∈ selected ↔ r ∈ lastOf Row.slot writes ∧ r.tenant = q.tenant ∧
        q.startIso ≤ r.startedAt ∧ r.startedAt ≤ q.endIso ∧ (r.startedAt, r.id) ≠ ("", "")) ∧
      ∀ pageSize : Nat,
        let s := (empty pageSize).insertAll writes
        let records := selected.filterMap fun r => CallRecord.ofText? r.item
        Scans q s none (selected.length / max pageSize 1 + 1) (.ok records) s ∧
          readRecords s q = (.ok records, s) := by
  have tidy : ∀ n, ((empty n).insertAll writes).Tidy := fun n => (tidy_empty n).insertAll writes
  refine ⟨((empty 1).insertAll writes).select q .origin, (tidy 1).pairwise_select q _, ?_, ?_⟩
  · intro r
    rw [mem_select, (rows_insertAll_perm 1 writes).mem_iff, RowKey.origin_before_iff]
    simp [Row.key, RowKey.origin]
  · intro pageSize s records
    have same : s.select q .origin = ((empty 1).insertAll writes).select q .origin := by
      rw [select, select, rows_insertAll_congr (s := empty pageSize) (t := empty 1) rfl]
    have scan := (tidy pageSize).scans_of_position q (c := none) (k := .origin) rfl
    have all := (tidy pageSize).readRecords_select q
    rw [pageSize_insertAll, same] at scan
    rw [same] at all
    exact ⟨scan, all⟩

end TableStore

end CallMeter
