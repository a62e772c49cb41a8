import CallMeter.Proofs.Store.Scans
import CallMeter.Store.Memory
import Mathlib.Data.List.Sort
import Mathlib.Data.String.Basic

/-!
# Scans by offset

The memory store answers every page read from the items of the query, sorted anew by their
start. The sort is stable, so equal reads see equal lists, and the offsets of a scan cut one
such list into pieces.

## Main definitions

* `StableSorting`: a list put in the order of a key, equal keys in their old order
* `itemsOf`, `RecordQuery.wants`: the items of a tenant, and those that a query asks for
* `pageCount`: the pages that a number of items takes

## Main results

* `readWord?_digits`: an offset reads back from its digits
* `scans_of_offset`: a scan returns the items from its offset on
* `readRecords_found`: all records of a query are those of the items it asks for
* `scan_memory`: a scan of a memory store is complete and exact
-/

namespace CallMeter

/-! ## Stable sorting -/

section StableSorting

variable {α κ : Type} [LinearOrder κ]

/-- **Stable sorting** of a list by a key: the same elements, keys ascending, and the elements
of each key in the order in which they came. -/
structure StableSorting (key : α → κ) (l sorted : List α) : Prop where
  perm : sorted.Perm l
  ascending : sorted.Pairwise fun a b => key a ≤ key b
  stable : ∀ k, (sorted.filter fun a => key a = k) = l.filter fun a => key a = k

variable (key : α → κ)

theorem keyLe_trans (a b c : α) (hab : decide (key a ≤ key b) = true)
    (hbc : decide (key b ≤ key c) = true) : decide (key a ≤ key c) = true :=
  decide_eq_true ((of_decide_eq_true hab).trans (of_decide_eq_true hbc))

theorem keyLe_total (a b : α) : (decide (key a ≤ key b) || decide (key b ≤ key a)) = true := by
  simp only [Bool.or_eq_true, decide_eq_true_eq]
  exact le_total _ _

theorem stableSorting_mergeSort (l : List α) :
    StableSorting key l (l.mergeSort fun a b => key a ≤ key b) where
  perm := List.mergeSort_perm l _
  ascending :=
    (List.pairwise_mergeSort (keyLe_trans key) (keyLe_total key) l).imp of_decide_eq_true
  stable := by
    intro k
    -- elements of one key are in order already, so the sort keeps them as a sublist
    have kept : (l.filter fun a => key a = k).Sublist (l.mergeSort fun a b => key a ≤ key b) := by
      refine List.sublist_mergeSort (keyLe_trans key) (keyLe_total key) ?_ List.filter_sublist
      apply List.pairwise_of_forall_mem_list
      intro a ha b hb
      have ea := of_decide_eq_true (List.mem_filter.mp ha).2
      have eb := of_decide_eq_true (List.mem_filter.mp hb).2
      exact decide_eq_true (ea.trans eb.symm).le
    have sub := kept.filter fun a => decide (key a = k)
    simp only [List.filter_filter, Bool.and_self] at sub
    exact (sub.eq_of_length ((List.mergeSort_perm l _).filter _).length_eq.symm).symm

end StableSorting

/-! ## Offsets -/

/-- **An offset reads back** from its digits. -/
theorem Decimal.readWord?_digits {n : Nat} (h : n < UInt64.size) :
    readWord? (digits n) = some (UInt64.ofNat n) := by
  have plain : ∀ r, digits n ≠ '+' :: r := by
    intro r e
    have hd : ('+' : Char).isDigit = true := isDigit_of_mem_digits (e ▸ List.mem_cons_self)
    exact absurd hd (by decide)
  rw [readWord?, readNat?_digits]
  · exact if_pos h
  · exact plain

/-! ## The items of a query -/

/-- The items of a tenant, in the order in which they were added. -/
def itemsOf (tenant : String) (items : List (String × Json)) : List Json :=
  (items.filter fun e => e.1 = tenant).map Prod.snd

/-- An item that a query asks for: its start is a string in the window. -/
def RecordQuery.wants (q : RecordQuery) (item : Json) : Bool :=
  (startOf? item).any q.covers

/-- The start of an item, empty where it is no string. -/
def startText (item : Json) : String :=
  (startOf? item).getD ""

namespace MemoryStore

/-- **What a scan finds**: the items that a query asks for, in stable order of their starts. -/
def found (q : RecordQuery) (items : List (String × Json)) : List Json :=
  ((itemsOf q.tenant items).filter q.wants).mergeSort fun a b => startText a ≤ startText b

theorem filterMap_stamped (q : RecordQuery) (items : List (String × Json)) :
    items.filterMap (stamped? q) =
      ((itemsOf q.tenant items).filter q.wants).map fun item => (startText item, item) := by
  induction items with
  | nil => rfl
  | cons e items ih =>
    obtain ⟨tenant, item⟩ := e
    by_cases ht : tenant = q.tenant
    · rw [itemsOf, List.filter_cons_of_pos (by simpa using ht), List.map_cons, ← itemsOf]
      cases hs : startOf? item with
      | none =>
        rw [List.filterMap_cons_none (by simp [stamped?, ht, hs]),
          List.filter_cons_of_neg (by simp [RecordQuery.wants, hs]), ih]
      | some start =>
        by_cases hc : q.covers start = true
        · rw [List.filterMap_cons_some (b := (start, item)) (by simp [stamped?, ht, hs, hc]),
            List.filter_cons_of_pos (by simp [RecordQuery.wants, hs, hc]), List.map_cons, ih]
          simp [startText, hs]
        · rw [List.filterMap_cons_none (by simp [stamped?, ht, hs, hc]),
            List.filter_cons_of_neg (by simp [RecordQuery.wants, hs, hc]), ih]
    · rw [itemsOf, List.filter_cons_of_neg (by simpa using ht), ← itemsOf,
        List.filterMap_cons_none (by simp [stamped?, ht]), ih]

variable {s : MemoryStore} {q : RecordQuery}

theorem matching_eq (s : MemoryStore) (q : RecordQuery) :
    s.matching q = (found q s.items).map fun item => (startText item, item) := by
  rw [matching, filterMap_stamped, found]
  refine (List.map_mergeSort ?_).symm
  exact fun a _ b _ => rfl

theorem length_matching_lt (s : MemoryStore) (q : RecordQuery) :
    (s.matching q).length < itemLimit := by
  rw [matching, List.length_mergeSort]
  exact Nat.lt_of_le_of_lt (List.length_filterMap_le _ _) s.items_lt

theorem length_found_le (q : RecordQuery) (items : List (String × Json)) :
    (found q items).length ≤ items.length := by
  have all := List.length_filterMap_le (stamped? q) items
  rwa [filterMap_stamped, List.length_map, ← List.length_mergeSort] at all

/-- An item that a query asks for has a record. -/
theorem map_ofItem_of_wants {l : List Json} (wanted : ∀ item ∈ l, q.wants item = true) :
    l.map CallRecord.ofItem? = (l.filterMap CallRecord.ofItem?).map some := by
  induction l with
  | nil => rfl
  | cons item rest ih =>
    have object : (CallRecord.ofItem? item).isSome := by
      have hi := wanted item List.mem_cons_self
      rw [CallRecord.ofItem?_isSome]
      cases item with
      | object members => rfl
      | _ => exact absurd hi (by simp [RecordQuery.wants, startOf?, Json.field?])
    obtain ⟨r, hr⟩ := Option.isSome_iff_exists.mp object
    rw [List.map_cons, List.filterMap_cons_some hr, List.map_cons, hr,
      ih fun i hi => wanted i (List.mem_cons_of_mem _ hi)]

theorem wants_of_mem_found {items : List (String × Json)} {item : Json}
    (h : item ∈ found q items) : q.wants item = true := by
  rw [found, List.mem_mergeSort, List.mem_filter] at h
  exact h.2

/-- The records of the items found: one for each. -/
theorem map_ofItem_found (q : RecordQuery) (items : List (String × Json)) :
    (found q items).map CallRecord.ofItem? =
      ((found q items).filterMap CallRecord.ofItem?).map some :=
  map_ofItem_of_wants fun _ => wants_of_mem_found

/-! ## Page reads -/

/-- The store after some more page reads. -/
def served (s : MemoryStore) (pages : Nat) : MemoryStore :=
  { s with pagesServed := s.pagesServed + pages }

theorem served_served (s : MemoryStore) (m n : Nat) : (s.served m).served n = s.served (m + n) := by
  simp only [served, Nat.add_assoc]

theorem slice_of_lt (items : List (String × Json)) {pageSize o : Nat}
    (h : o + pageSize < UInt64.size) :
    slice items pageSize o = .ok {
      records := ((items.drop o).take pageSize).filterMap fun e => CallRecord.ofItem? e.2
      next :=
        if o + pageSize < items.length then some (Decimal.text (o + pageSize)) else none } := by
  have piece : (items.drop o).take (min (o + pageSize) items.length - o) =
      (items.drop o).take pageSize := by
    rw [List.take_eq_take_iff, List.length_drop]
    omega
  rw [slice, if_pos h]
  simp only [piece]
  by_cases hl : o + pageSize < items.length
  · rw [if_pos (by omega), if_pos hl, Nat.min_eq_left hl.le]
  · rw [if_neg (by omega), if_neg hl]

theorem queryPage_of_unmarked (hf : s.failOnPage = none) (c : Option String) :
    CallStore.queryPage s q c =
      ((offset c).bind (slice (s.matching q) s.pageSize), s.served 1) := by
  show s.queryPage q c = _
  simp only [queryPage, hf, reduceCtorEq, if_false, served]

theorem queryPage_of_offset (hf : s.failOnPage = none) {c : Option String} {o : Nat}
    (hc : offset c = .ok o) (h : o + s.pageSize < UInt64.size) :
    CallStore.queryPage s q c = (.ok {
      records := (((s.matching q).drop o).take s.pageSize).filterMap fun e => CallRecord.ofItem? e.2
      next := if o + s.pageSize < (s.matching q).length
        then some (Decimal.text (o + s.pageSize)) else none }, s.served 1) := by
  rw [queryPage_of_unmarked hf, ← slice_of_lt _ h, hc]
  rfl

theorem offset_text {n : Nat} (h : n < UInt64.size) : offset (some (Decimal.text n)) = .ok n := by
  have read : Decimal.readWord? (Decimal.text n).toList = some (UInt64.ofNat n) := by
    rw [Decimal.text, String.toList_ofList, Decimal.readWord?_digits h]
  simp only [offset, read, UInt64.toNat_ofNat_of_lt' h]

end MemoryStore

/-! ## Scans -/

/-- **Pages** of `pageSize` items each, the last one shorter, and at least one. -/
def pageCount (items pageSize : Nat) : Nat :=
  max 1 ((items + pageSize - 1) / pageSize)

theorem pageCount_of_le {items pageSize : Nat} (hp : 0 < pageSize) (h : items ≤ pageSize) :
    pageCount items pageSize = 1 := by
  have : (items + pageSize - 1) / pageSize < 2 := Nat.div_lt_of_lt_mul (by omega)
  rw [pageCount]
  omega

theorem pageCount_of_lt {items pageSize : Nat} (hp : 0 < pageSize) (h : pageSize < items) :
    pageCount items pageSize = pageCount (items - pageSize) pageSize + 1 := by
  have full : 1 ≤ (items - pageSize + pageSize - 1) / pageSize :=
    (Nat.one_le_div_iff hp).mpr (by omega)
  have more : (items + pageSize - 1) / pageSize =
      (items - pageSize + pageSize - 1) / pageSize + 1 := by
    rw [← Nat.add_div_right _ hp]
    congr 1
    omega
  rw [pageCount, pageCount, more]
  omega

theorem pageCount_le (items : Nat) {pageSize : Nat} (hp : 0 < pageSize) :
    pageCount items pageSize ≤ items + 1 := by
  have wide : items ≤ pageSize * items := Nat.le_mul_of_pos_left items hp
  have : (items + pageSize - 1) / pageSize ≤ items + 1 :=
    Nat.div_le_of_le_mul (by rw [Nat.mul_succ]; omega)
  rw [pageCount]
  omega

namespace MemoryStore

variable {s : MemoryStore} {q : RecordQuery}

/-- The offsets of a scan stay small enough for a whole page to fit after them. -/
theorem offset_fits (s : MemoryStore) (q : RecordQuery) {o : Nat}
    (ho : o = 0 ∨ s.pageSize ≤ o ∧ o < (s.matching q).length) :
    o + s.pageSize < UInt64.size := by
  have hp := s.pageSize_lt
  have hl := length_matching_lt s q
  simp only [itemLimit, UInt64.size] at hp hl ⊢
  omega

/-- **A scan returns the items from its offset on**, in pages of full size but the last. -/
theorem scans_of_offset (hf : s.failOnPage = none) (q : RecordQuery) {c : Option String} {o : Nat}
    (hc : offset c = .ok o) (fits : o + s.pageSize < UInt64.size) :
    Scans q s c (pageCount ((s.matching q).length - o) s.pageSize)
      (.ok (((s.matching q).drop o).filterMap fun e => CallRecord.ofItem? e.2))
      (s.served (pageCount ((s.matching q).length - o) s.pageSize)) := by
  -- every page that goes on leaves fewer items
  induction hn : (s.matching q).length - o using Nat.strong_induction_on generalizing s c o with
  | _ n ih =>
    have hp := s.pageSize_pos
    have read := queryPage_of_offset (q := q) hf hc fits
    rcases Nat.lt_or_ge s.pageSize n with hlt | hge
    · have hmore : o + s.pageSize < (s.matching q).length := by omega
      have left : (s.matching q).length - (o + s.pageSize) = n - s.pageSize := by omega
      have rest := ih (n - s.pageSize) (by omega) (s := s.served 1) hf (offset_text fits)
        (offset_fits s q (.inr ⟨Nat.le_add_left _ _, hmore⟩)) left
      have joined : ((s.matching q).drop o).filterMap (fun e => CallRecord.ofItem? e.2) =
          (((s.matching q).drop o).take s.pageSize).filterMap (fun e => CallRecord.ofItem? e.2) ++
            ((s.matching q).drop (o + s.pageSize)).filterMap fun e => CallRecord.ofItem? e.2 := by
        rw [← List.filterMap_append, ← List.drop_drop, List.take_append_drop]
      rw [pageCount_of_lt hp hlt, joined, Nat.add_comm, ← served_served, Nat.add_comm]
      exact Scans.more read (if_pos hmore) rest
    · have hall : ((s.matching q).drop o).take s.pageSize = (s.matching q).drop o :=
        List.take_of_length_le (by rw [List.length_drop]; omega)
      rw [hall] at read
      rw [pageCount_of_le hp hge]
      exact Scans.last read (if_neg (by omega))

/-- A scan from the first page on returns the items that the query asks for. -/
theorem scans_found (hf : s.failOnPage = none) (q : RecordQuery) :
    Scans q s none (pageCount (found q s.items).length s.pageSize)
      (.ok ((found q s.items).filterMap CallRecord.ofItem?))
      (s.served (pageCount (found q s.items).length s.pageSize)) := by
  have scan := scans_of_offset hf q (c := none) (o := 0) rfl (offset_fits s q (.inl rfl))
  rwa [List.drop_zero, Nat.sub_zero, matching_eq, List.length_map, List.filterMap_map] at scan

theorem readRecords_found (hf : s.failOnPage = none) (q : RecordQuery) :
    readRecords s q = (.ok ((found q s.items).filterMap CallRecord.ofItem?),
      s.served (pageCount (found q s.items).length s.pageSize)) := by
  refine readRecords_eq_of_scans (scans_found hf q) ?_
  exact (pageCount_le _ s.pageSize_pos).trans (Nat.succ_le_succ (length_found_le q s.items))

/-- **A scan of a memory store is complete and exact.** The items that a query asks for come
out once each as records, in stable order of their starts, whatever the page size; the pages
are as many as the items fill, and at least one. -/
theorem scan_memory (q : RecordQuery) (items : List (String × Json)) :
    ∃ (found : List Json) (records : List CallRecord),
      StableSorting startText ((itemsOf q.tenant items).filter q.wants) found ∧
      found.map CallRecord.ofItem? = records.map some ∧
      ∀ s : MemoryStore, s.items = items → s.failOnPage = none →
        Scans q s none (pageCount found.length s.pageSize) (.ok records)
            (s.served (pageCount found.length s.pageSize)) ∧
          readRecords s q = (.ok records, s.served (pageCount found.length s.pageSize)) := by
  refine ⟨found q items, _, stableSorting_mergeSort startText _, map_ofItem_found q items, ?_⟩
  rintro s rfl hf
  exact ⟨scans_found hf q, readRecords_found hf q⟩

/-- Two calls of one day, the later one added first, on pages of one item. -/
theorem scan_memory_pages_of_one :
    let call (start : String) := Json.object [("startedAt", .string start)]
    let s := ((MemoryStore.empty 1 none).add "acme" (call "2024-05-02T10")).add "acme"
      (call "2024-05-02T09")
    let q : RecordQuery := ⟨"acme", "2024-05-01", "2024-05-08"⟩
    s.failOnPage = none ∧ ∃ records, Scans q s none 2 (.ok records) (s.served 2) := by
  intro call s q
  refine ⟨rfl, ?_⟩
  obtain ⟨found, records, sorted, -, scan⟩ := scan_memory q s.items
  have two : found.length = 2 := sorted.perm.length_eq.trans (by decide +kernel)
  have full : pageCount 2 s.pageSize = 2 := by decide
  have pages := (scan s rfl rfl).1
  rw [two, full] at pages
  exact ⟨records, pages⟩

end MemoryStore

end CallMeter
