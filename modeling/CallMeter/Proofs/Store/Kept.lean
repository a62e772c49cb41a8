import CallMeter.Proofs.Json.Rereading
import CallMeter.Proofs.Store.Keyset

/-!
# Items kept as text

A table keeps an item as text, and a scan reads its record back from there. For an item that came
out of the reader, this is the record of the item up to its counts. A count that was a double may
have become another one, since doubles are not always read back as they were written; integers
and numeric texts stay.

## Main definitions

* `CallRecord.counters`: the members of an item that are counts
* `CallRecord.KeepsCounts`: the counts of an item stay when it is written and read again

## Main results

* `CallRecord.ofText?_compact`: the record of an item from its text
* `CallRecord.keepsCounts_of_fewDigits`: counts of few digits stay
* `TableStore.Tidy.select_insert`: where a row that was written stands among those of a query
* `TableStore.readRecords_add`: a scan reads one record for an item that was added
-/

namespace CallMeter

open Json (Legible KeepsCount FewDigits asText asFlag asCount reread)

/-! ## Records from texts -/

namespace CallRecord

/-- **The members that are counts.** -/
def counters : List String :=
  ["turnCount", "lastLatencyMs", "approxInputTokens", "approxOutputTokens"]

/-- **The counts of an item stay** when it is written and read again. -/
def KeepsCounts (item : Json) : Prop :=
  ∀ key ∈ counters, ∀ v, item.field? key = some v → v.KeepsCount

/-- **Counts of few digits stay**, and so do all counts that are no doubles. -/
theorem keepsCounts_of_fewDigits {room : Nat} {item : Json} (legible : Legible room item)
    (few : ∀ key ∈ counters, ∀ x, item.field? key = some (.number (.double x)) → FewDigits x) :
    KeepsCounts item := by
  intro key counter v hv
  cases legible with
  | object once values =>
    have mem := (Entries.mem_iff_get? once key v).mpr hv
    have legible := values _ mem
    by_cases double : ∃ x, v = .number (.double x)
    · obtain ⟨x, rfl⟩ := double
      cases legible with
      | number finite => exact Json.keepsCount_of_fewDigits finite (few key counter x hv)
    · exact Json.keepsCount_of_ne_double legible fun x e => double ⟨x, e⟩
  | _ => cases hv

/-- **The same record up to its counts.** -/
def SameButCounts (r r' : CallRecord) : Prop :=
  { r with turns := r'.turns, latencyMs := r'.latencyMs, inputTokens := r'.inputTokens,
           outputTokens := r'.outputTokens } = r'

/-- **The record of an item from its text** differs from the record of the item in its counts at
most, and in none of them exactly if they stay. -/
theorem ofText?_compact {item : Json} (legible : Legible Json.Reader.maxDepth item)
    {r : CallRecord} (h : ofItem? item = some r) :
    ∃ r', ofText? item.compact = some r' ∧ r.SameButCounts r' ∧ (r' = r ↔ KeepsCounts item) := by
  cases item with
  | object members =>
    obtain rfl := Option.some_inj.mp h
    have once : (members.map Prod.fst).Nodup := by
      cases legible with
      | object once values => exact once
    obtain ⟨w, hw⟩ := Json.exists_reread legible
    obtain ⟨inner, entries, -, rfl, -⟩ := Json.exists_entries_of_reread hw once
    have texts (key : String) :
        asText (Entries.get? key entries) = asText (Entries.get? key members) :=
      Json.asText_field?_reread hw once key
    have flags (key : String) :
        asFlag (Entries.get? key entries) = asFlag (Entries.get? key members) :=
      Json.asFlag_field?_reread hw key legible
    have counts (key : String) :
        asCount (Entries.get? key entries) = asCount (Entries.get? key members) ↔
          ∀ v, Entries.get? key members = some v → v.KeepsCount :=
      Json.asCount_field?_reread hw key once
    refine ⟨ofMembers entries, ?_, ?_, ?_⟩
    · rw [ofText?, Json.parse?_compact, hw]
      rfl
    · simp only [SameButCounts, ofMembers, texts, flags]
    · simp only [ofMembers, texts, flags, mk.injEq, true_and, counts, KeepsCounts, counters,
        List.forall_mem_cons, List.not_mem_nil, false_imp_iff, implies_true, and_true]
      rfl
  | _ => cases h

end CallRecord

/-! ## Rows -/

namespace TableStore

variable {s : TableStore} {q : RecordQuery}

/-- **A row that is written** stands once among the rows of a query that asks for it, and all
others are under other record ids. -/
theorem Tidy.select_insert (h : s.Tidy) (row : Row) (tenant : row.tenant = q.tenant)
    (covers : q.covers row.startedAt = true) (start : q.startIso ≠ "") :
    ∃ before after, (s.insert row).select q .origin = before ++ row :: after ∧
      ∀ r ∈ before ++ after, r.id ≠ row.id := by
  have later := origin_before_of_covers start covers
  rw [RecordQuery.covers, Bool.and_eq_true, decide_eq_true_iff, decide_eq_true_iff] at covers
  have selected : row ∈ (s.insert row).select q .origin :=
    mem_select.mpr ⟨mem_insert.mpr (.inl rfl), tenant, covers.1, covers.2, later⟩
  obtain ⟨before, after, split⟩ := List.append_of_mem selected
  refine ⟨before, after, split, fun r hr e => ?_⟩
  have slots : (((s.insert row).select q .origin).map Row.slot).Nodup :=
    (List.filter_sublist.map _).nodup (h.insert row).slots
  rw [split, (List.perm_middle.map Row.slot).nodup_iff, List.map_cons, List.nodup_cons] at slots
  have own : r.tenant = q.tenant := by
    have mem : r ∈ (s.insert row).select q .origin := by
      rw [split]
      exact List.perm_middle.mem_iff.mpr (List.mem_cons_of_mem _ hr)
    exact (mem_select.mp mem).2.1
  refine slots.1 (List.mem_map.mpr ⟨r, hr, ?_⟩)
  rw [Row.slot, Row.slot, own, tenant, e]

/-- **A scan reads one record for an item that was added**, in the place of its row. It is the
record of the item up to its counts, and exactly that record if and only if the counts stay when
the item is written and read again. Counts that are no doubles stay, and so do doubles of few
digits. -/
theorem readRecords_add (pageSize : Nat) (writes : List Row) {text : String} {item : Json}
    (read : Json.parse? text = some item) {start : String} (hs : startOf? item = some start)
    (id : String) (q : RecordQuery) (nonempty : q.startIso ≠ "") (covers : q.covers start = true) :
    let s := ((empty pageSize).insertAll writes).add q.tenant id item
    let records := List.filterMap fun r : Row => CallRecord.ofText? r.item
    ∃ before after record found,
      s.select q .origin = before ++ ⟨q.tenant, id, start, item.compact⟩ :: after ∧
      (∀ r ∈ before ++ after, r.id ≠ id) ∧
      readRecords s q = (.ok (records before ++ found :: records after), s) ∧
      CallRecord.ofItem? item = some record ∧ record.SameButCounts found ∧
      (found = record ↔ CallRecord.KeepsCounts item) ∧
      ((∀ key ∈ CallRecord.counters, ∀ x, item.field? key = some (.number (.double x)) →
        FewDigits x) → found = record) := by
  intro s records
  have object : item.isObject = true := by
    cases item with
    | object members => rfl
    | _ => cases hs
  obtain ⟨record, hrecord⟩ :=
    Option.isSome_iff_exists.mp ((CallRecord.ofItem?_isSome item).trans object)
  obtain ⟨found, hfound, others, same⟩ :=
    CallRecord.ofText?_compact (Json.legible_of_parse? read) hrecord
  have tidy : ((empty pageSize).insertAll writes).Tidy := (tidy_empty pageSize).insertAll writes
  have row :
      s = ((empty pageSize).insertAll writes).insert ⟨q.tenant, id, start, item.compact⟩ := by
    show TableStore.add _ _ _ _ = _
    rw [add, hs, Option.getD_some]
  obtain ⟨before, after, split, apart⟩ :=
    tidy.select_insert ⟨q.tenant, id, start, item.compact⟩ rfl covers nonempty
  rw [← row] at split
  have decoded : records (⟨q.tenant, id, start, item.compact⟩ :: after) =
      found :: records after := List.filterMap_cons_some hfound
  have all := (tidy.insert ⟨q.tenant, id, start, item.compact⟩).readRecords_select q
  rw [← row, split, List.filterMap_append] at all
  refine ⟨before, after, record, found, split, apart, ?_, hrecord, others, same, fun few => ?_⟩
  · rw [all, ← decoded]
  · exact same.mpr (CallRecord.keepsCounts_of_fewDigits (Json.legible_of_parse? read) few)

/-- A call with a latency of few digits is read back as it was. -/
theorem readRecords_add_short_latency :
    ∃ item before record after,
      Json.parse? "\x7b\"startedAt\":\"2024-05-02\",\"turnCount\":3,\"lastLatencyMs\":812.5\x7d" =
        some item ∧
      CallRecord.ofItem? item = some record ∧
      (readRecords (((empty 1).insertAll []).add "acme" "call-1" item)
        ⟨"acme", "2024-05-01", "2024-05-08"⟩).1 = .ok (before ++ record :: after) := by
  have read :
      Json.parse? "\x7b\"startedAt\":\"2024-05-02\",\"turnCount\":3,\"lastLatencyMs\":812.5\x7d" =
        some (.object [("startedAt", .string "2024-05-02"), ("turnCount", .number (.natural 3)),
          ("lastLatencyMs", .number (.double 812.5))]) := by
    rfl
  obtain ⟨before, after, record, found, -, -, scan, hrecord, -, -, exact⟩ :=
    readRecords_add 1 [] read rfl "call-1" ⟨"acme", "2024-05-01", "2024-05-08"⟩ (by decide)
      (by decide)
  have digits : (Decimal.shortest .toEven 812.5).coefficient = 8125 ∧
      (Decimal.shortest .toEven 812.5).exponent = -1 := by decide +kernel
  have few : FewDigits 812.5 := by
    refine ⟨?_, ?_, ?_⟩
    · rw [digits.1]
      norm_num
    · rw [digits.2]
      norm_num
    · rw [Decimal.Scientific.toRat, digits.1, digits.2]
      norm_num
  have same : found = record := by
    refine exact fun key counter x hx => ?_
    simp only [CallRecord.counters, List.mem_cons, List.not_mem_nil, or_false] at counter
    rcases counter with rfl | rfl | rfl | rfl
    · cases hx
    · obtain rfl : 812.5 = x := by cases hx; rfl
      exact few
    · cases hx
    · cases hx
  rw [same] at scan
  exact ⟨_, _, record, _, read, hrecord, congrArg Prod.fst scan⟩

/-- **A count may change in the table.** The turns of this call are read exactly from the item,
but their text in the table has a fraction, and what is read from that is less than a turn off. -/
theorem readRecords_add_changes_count :
    ∃ item record,
      Json.parse? "\x7b\"startedAt\":\"2024-05-02\",\"turnCount\":2221448822519629e0\x7d" =
        some item ∧
      startOf? item = some "2024-05-02" ∧ CallRecord.ofItem? item = some record ∧
      record.turns = 2221448822519629 ∧
      (readRecords ((empty 1).add "acme" "call-1" item) ⟨"acme", "2024-05-01", "2024-05-08"⟩).1 =
        .ok [{ record with turns := 2221448822519628 }] := by
  have seen : ((Json.parse?
      "\x7b\"startedAt\":\"2024-05-02\",\"turnCount\":2221448822519629e0\x7d").map fun item =>
        (startOf? item, CallRecord.ofItem? item, (readRecords ((empty 1).add "acme" "call-1" item)
          ⟨"acme", "2024-05-01", "2024-05-08"⟩).1.toOption)) =
      some (some "2024-05-02",
        some ⟨none, none, some "2024-05-02", none, none, false, false, 2221448822519629, 0, 0, 0⟩,
        some [⟨none, none, some "2024-05-02", none, none, false, false, 2221448822519628, 0, 0,
          0⟩]) := by
    decide +kernel
  obtain ⟨item, read, all⟩ := Option.map_eq_some_iff.mp seen
  obtain ⟨start, rest⟩ := Prod.mk.inj all
  obtain ⟨record, scan⟩ := Prod.mk.inj rest
  refine ⟨item, _, read, start, record, rfl, ?_⟩
  revert scan
  cases (readRecords ((empty 1).add "acme" "call-1" item)
      ⟨"acme", "2024-05-01", "2024-05-08"⟩).1 with
  | error fault => exact fun scan => nomatch scan
  | ok records => exact fun scan => congrArg Except.ok (Option.some_inj.mp scan)

end TableStore

end CallMeter
