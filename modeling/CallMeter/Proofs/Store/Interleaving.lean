import CallMeter.Proofs.Store.Keyset

/-!
# Table scans amid writes

Rows may be written between the page reads of a scan, so the pages are no pieces of one list.
What survives is the key the scan has come to: a row that stays as it is has been returned
exactly if its key is not after it. Rows that others write come before or after that key and
move no others.

## Main definitions

* `TableStore.selected`: the rows that a page read takes
* `KeyRun`: a scan amid writes by the keys it comes to

## Main results

* `KeyRun.count_of_untouched`: what is left of a run takes each row after its key once
* `KeyRun.id_ne_of_passed`: what is left of a run does not come back to a row before its key
* `scan_amid_writes`: a scan amid writes returns each untouched row once, and no row twice
-/

namespace CallMeter

namespace TableStore

/-- **The rows that a page read takes.** -/
def selected (q : RecordQuery) : ScanEvent TableStore Row → List Row
  | .read s c =>
    match position c with
    | .ok k => s.taken q k
    | .error _ => []
  | .write _ => []

theorem selected_read {s : TableStore} {q : RecordQuery} {c : Option String} {k : RowKey}
    (hc : position c = .ok k) : selected q (.read s c) = s.taken q k := by
  simp only [selected, hc]

/-- **A scan amid writes by its keys**: after each page read it goes on from the last row read,
until a page takes all there is. -/
inductive KeyRun (q : RecordQuery) : TableStore → RowKey → List (ScanEvent TableStore Row) → Prop
  | write {s : TableStore} {k : RowKey} {w : Row} {es : List (ScanEvent TableStore Row)}
      (rest : KeyRun q (s.insert w) k es) : KeyRun q s k (.write w :: es)
  | last {s : TableStore} {k : RowKey} {c : Option String} (hc : position c = .ok k)
      (hall : s.taken q k = s.select q k) : KeyRun q s k [.read s c]
  | more {s : TableStore} {k : RowKey} {c : Option String} {last : Row}
      {es : List (ScanEvent TableStore Row)} (hc : position c = .ok k)
      (hl : (s.taken q k).getLast? = some last) (rest : KeyRun q s last.key es) :
      KeyRun q s k (.read s c :: es)

variable {q : RecordQuery} {s : TableStore} {k : RowKey} {es : List (ScanEvent TableStore Row)}

/-- Every page read of a scan amid writes succeeds, and the scan returns what its reads take. -/
theorem keyRun_of_scansAmid {c : Option String} {r : Except StoreFault (List CallRecord)}
    (run : ScansAmid insert q s c es r) (hc : position c = .ok k) :
    KeyRun q s k es ∧
      r = .ok ((es.flatMap (selected q)).filterMap fun row => CallRecord.ofText? row.item) := by
  induction run generalizing k with
  | write rest ih =>
    obtain ⟨run, hr⟩ := ih hc
    exact ⟨.write run, hr⟩
  | fault h =>
    rw [queryPage_of_position hc] at h
    cases h
  | @last s s' c page h hn =>
    rw [queryPage_of_position hc] at h
    cases h
    have hlt : (s.select q k).length < s.pageSize := by
      by_contra hge
      obtain ⟨last, -, hnext⟩ := next_page_of_le (q := q) (k := k) (Nat.le_of_not_lt hge)
      rw [hnext] at hn
      cases hn
    refine ⟨.last hc (next_page_of_lt hlt).2, ?_⟩
    rw [records_page, List.flatMap_singleton, selected_read hc]
  | @more s s' c page next es r h hn rest ih =>
    rw [queryPage_of_position hc] at h
    cases h
    have hge : s.pageSize ≤ (s.select q k).length := by
      by_contra hlt
      rw [(next_page_of_lt (q := q) (k := k) (Nat.lt_of_not_le hlt)).1] at hn
      cases hn
    obtain ⟨last, hl, hnext⟩ := next_page_of_le (q := q) (k := k) hge
    obtain rfl : next = last.key.encode := Option.some.inj (hn.symm.trans hnext)
    obtain ⟨run, rfl⟩ := ih (position_encode last.key)
    refine ⟨.more hc hl run, ?_⟩
    rw [records_page, List.flatMap_cons, selected_read hc, List.filterMap_append]
    rfl

/-! ## Rows that nobody touches -/

theorem Tidy.count_select (h : s.Tidy) {row : Row} (hrow : row ∈ s.rows)
    (ht : row.tenant = q.tenant) (hs : q.startIso ≤ row.startedAt) (he : row.startedAt ≤ q.endIso) :
    (s.select q k).count row = if k.before row.key = true then 1 else 0 := by
  have hmem : row ∈ s.select q k ↔ k.before row.key = true := by
    simp [mem_select, hrow, ht, hs, he]
  by_cases hk : k.before row.key = true
  · rw [if_pos hk]
    exact List.count_eq_one_of_mem (h.nodup_select q k) (hmem.mpr hk)
  · rw [if_neg hk]
    exact List.count_eq_zero.mpr fun hm => hk (hmem.mp hm)

/-- **What is left of a run takes each untouched row after its key once**, and none before. -/
theorem KeyRun.count_of_untouched (run : KeyRun q s k es) (h : s.Tidy) {row : Row}
    (hrow : row ∈ s.rows) (ht : row.tenant = q.tenant) (hs : q.startIso ≤ row.startedAt)
    (he : row.startedAt ≤ q.endIso) (hw : ∀ w, ScanEvent.write w ∈ es → w.slot ≠ row.slot) :
    (es.flatMap (selected q)).count row = if k.before row.key = true then 1 else 0 := by
  induction run with
  | @write s k w es rest ih =>
    have stays : row ∈ (s.insert w).rows :=
      mem_insert.mpr (.inr ⟨hrow, (hw w List.mem_cons_self).symm⟩)
    exact ih (h.insert w) stays fun v hv => hw v (List.mem_cons_of_mem _ hv)
  | last hc hall =>
    rw [List.flatMap_singleton, selected_read hc, hall, h.count_select hrow ht hs he]
  | @more s k c last es hc hl rest ih =>
    have after := ih h hrow fun v hv => hw v (List.mem_cons_of_mem _ hv)
    rw [List.flatMap_cons, selected_read hc, List.count_append, after,
      ← h.count_select hrow ht hs he, h.select_taken_last hl, ← List.count_append, taken,
      List.take_append_drop, h.count_select hrow ht hs he]

/-! ## Rows already returned -/

theorem id_ne_of_not_before (h : s.Tidy) {row : Row} (hrow : row ∈ s.rows)
    (ht : row.tenant = q.tenant) (hk : ¬ k.before row.key = true) {r : Row}
    (hr : r ∈ s.taken q k) : r.id ≠ row.id := by
  intro e
  obtain ⟨hr, hrt, -, -, hb⟩ := mem_select.mp (taken_sublist.subset hr)
  obtain rfl := h.eq_of_slot hr hrow (Prod.ext (hrt.trans ht.symm) e)
  exact hk hb

/-- **What is left of a run does not come back to a row before its key**, until it is written
again. -/
theorem KeyRun.id_ne_of_passed (run : KeyRun q s k es) (h : s.Tidy) {row : Row}
    (hrow : row ∈ s.rows) (ht : row.tenant = q.tenant) (hk : ¬ k.before row.key = true)
    {between later : List (ScanEvent TableStore Row)} {s' : TableStore} {c' : Option String}
    (hes : es = between ++ .read s' c' :: later)
    (hw : ∀ w, ScanEvent.write w ∈ between → w.slot ≠ row.slot) {r : Row}
    (hr : r ∈ selected q (.read s' c')) : r.id ≠ row.id := by
  induction run generalizing between with
  | @write s k w es rest ih =>
    cases between with
    | nil => cases hes
    | cons e between =>
      obtain ⟨rfl, tail⟩ := List.cons.inj hes
      have stays : row ∈ (s.insert w).rows :=
        mem_insert.mpr (.inr ⟨hrow, (hw w List.mem_cons_self).symm⟩)
      exact ih (h.insert w) stays hk tail fun v hv => hw v (List.mem_cons_of_mem _ hv)
  | @last s k c hc hall =>
    cases between with
    | nil =>
      cases hes
      rw [selected_read hc] at hr
      exact id_ne_of_not_before h hrow ht hk hr
    | cons e between => simp at hes
  | @more s k c last es hc hl rest ih =>
    cases between with
    | nil =>
      cases hes
      rw [selected_read hc] at hr
      exact id_ne_of_not_before h hrow ht hk hr
    | cons e between =>
      obtain ⟨rfl, tail⟩ := List.cons.inj hes
      have further : ¬ last.key.before row.key = true := fun hb =>
        hk (RowKey.before_trans (mem_select.mp (mem_select_of_last hl)).2.2.2.2 hb)
      exact ih h hrow further tail fun v hv => hw v (List.mem_cons_of_mem _ hv)

/-- A page read in a run takes the rows after some key from a tidy table; what is left of the
run goes on from the last of them. -/
theorem KeyRun.of_append (run : KeyRun q s k es) (h : s.Tidy)
    {earlier later : List (ScanEvent TableStore Row)} {s' : TableStore} {c' : Option String}
    (hes : es = earlier ++ .read s' c' :: later) :
    s'.Tidy ∧ ∃ k', position c' = .ok k' ∧
      (later = [] ∨ ∃ last, (s'.taken q k').getLast? = some last ∧ KeyRun q s' last.key later) := by
  induction run generalizing earlier with
  | @write s k w es rest ih =>
    cases earlier with
    | nil => cases hes
    | cons e earlier => exact ih (h.insert w) (List.cons.inj hes).2
  | @last s k c hc hall =>
    cases earlier with
    | nil =>
      cases hes
      exact ⟨h, k, hc, .inl rfl⟩
    | cons e earlier => simp at hes
  | @more s k c last es hc hl rest ih =>
    cases earlier with
    | nil =>
      cases hes
      exact ⟨h, k, hc, .inr ⟨last, hl, rest⟩⟩
    | cons e earlier => exact ih h (List.cons.inj hes).2

/-- The rows of a page have different record ids. -/
theorem Tidy.nodup_id_taken (h : s.Tidy) (q : RecordQuery) (k : RowKey) :
    ((s.taken q k).map Row.id).Nodup := by
  have slots : ((s.taken q k).map Row.slot).Nodup := by
    have sub : (s.taken q k).Sublist s.rows := taken_sublist.trans List.filter_sublist
    exact (sub.map _).nodup h.slots
  refine List.pairwise_map.mpr ((List.pairwise_map.mp slots).imp_of_mem ?_)
  intro a b ha hb hne e
  have ta := (mem_select.mp (taken_sublist.subset ha)).2.1
  have tb := (mem_select.mp (taken_sublist.subset hb)).2.1
  exact hne (Prod.ext (ta.trans tb.symm) e)

/-- **A scan amid writes** of a table that was written before succeeds. A row that it asks for
and that stays as it is comes out in exactly one page read, and once there; a record id comes
out of two page reads only if it was written again in between, and never twice out of one. -/
theorem scan_amid_writes {pageSize : Nat} {before : List Row}
    {r : Except StoreFault (List CallRecord)}
    (run : ScansAmid insert q ((empty pageSize).insertAll before) none es r) :
    r = .ok ((es.flatMap (selected q)).filterMap fun row => CallRecord.ofText? row.item) ∧
    (∀ row ∈ ((empty pageSize).insertAll before).rows, row.tenant = q.tenant →
      q.startIso ≤ row.startedAt → row.startedAt ≤ q.endIso →
      (row.startedAt, row.id) ≠ ("", "") →
      (∀ w, ScanEvent.write w ∈ es → w.slot ≠ row.slot) →
        (es.flatMap (selected q)).count row = 1) ∧
    (∀ earlier s₁ c₁ between s₂ c₂ later,
      es = earlier ++ .read s₁ c₁ :: (between ++ .read s₂ c₂ :: later) →
      ∀ r₁ ∈ selected q (.read s₁ c₁), ∀ r₂ ∈ selected q (.read s₂ c₂), r₂.id = r₁.id →
        ∃ w, ScanEvent.write w ∈ between ∧ w.slot = (q.tenant, r₁.id)) ∧
    (∀ e ∈ es, ((selected q e).map Row.id).Nodup) := by
  have tidy := (tidy_empty pageSize).insertAll before
  obtain ⟨keys, outcome⟩ := keyRun_of_scansAmid run (k := .origin) rfl
  refine ⟨outcome, ?_, ?_, ?_⟩
  · intro row hrow ht hs he hkey hw
    have after : RowKey.origin.before row.key = true :=
      RowKey.origin_before_iff.mpr (by simpa [Row.key, RowKey.origin] using hkey)
    rw [keys.count_of_untouched tidy hrow ht hs he hw, if_pos after]
  · intro earlier s₁ c₁ between s₂ c₂ later hes r₁ hr₁ r₂ hr₂ hid
    obtain ⟨tidy₁, k₁, hc₁, hrest⟩ := keys.of_append tidy hes
    rw [selected_read hc₁] at hr₁
    obtain ⟨hrow, ht, -⟩ := mem_select.mp (taken_sublist.subset hr₁)
    rcases hrest with hnil | ⟨last, hl, rest⟩
    · simp at hnil
    · by_contra none
      refine rest.id_ne_of_passed tidy₁ hrow ht (tidy₁.not_last_before hl hr₁) rfl ?_ hr₂ hid
      intro w hw e
      exact none ⟨w, hw, e.trans (Prod.ext ht rfl)⟩
  · intro e he
    cases e with
    | write w => exact List.nodup_nil
    | read s' c' =>
      obtain ⟨earlier, later, hes⟩ := List.append_of_mem he
      obtain ⟨tidy', k', hc', -⟩ := keys.of_append tidy hes
      rw [selected_read hc']
      exact tidy'.nodup_id_taken q k'

/-- Pages of one row, with a call that comes in between two others once the first was read. -/
theorem scan_amid_writes_of_late_call :
    let call (id start : String) : Row := ⟨"acme", id, start, "\x7b\x7d"⟩
    let q : RecordQuery := ⟨"acme", "2024", "2025"⟩
    let s := (empty 1).insertAll [call "a" "2024-05-01", call "b" "2024-05-03"]
    let late := call "c" "2024-05-02"
    ∃ es r, ScansAmid insert q s none es r ∧ ScanEvent.write late ∈ es ∧
      (es.flatMap (selected q)).count (call "b" "2024-05-03") = 1 := by
  intro call q s late
  have first : (page (s.select q .origin) s.pageSize).next =
      some (call "a" "2024-05-01").key.encode := by decide +kernel
  have second : (page ((s.insert late).select q (call "a" "2024-05-01").key) 1).next =
      some late.key.encode := by decide +kernel
  have third : (page ((s.insert late).select q late.key) 1).next =
      some (call "b" "2024-05-03").key.encode := by decide +kernel
  have fourth : (page ((s.insert late).select q (call "b" "2024-05-03").key) 1).next = none := by
    decide +kernel
  have run : ScansAmid insert q s none _ _ :=
    .more (queryPage_of_position rfl) first <| .write (w := late) <|
      .more (queryPage_of_position (position_encode _)) second <|
        .more (queryPage_of_position (position_encode _)) third <|
          .last (queryPage_of_position (position_encode _)) fourth
  refine ⟨_, _, run, by simp, ?_⟩
  refine (scan_amid_writes run).2.1 _ (by decide +kernel) rfl (by decide +kernel)
    (by decide +kernel) (by decide +kernel) ?_
  intro w hw
  simp only [List.mem_cons, List.not_mem_nil, reduceCtorEq, ScanEvent.write.injEq, false_or,
    or_false] at hw
  subst hw
  decide

end TableStore

end CallMeter
