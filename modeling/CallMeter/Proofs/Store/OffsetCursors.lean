import CallMeter.Proofs.Decimal.Digits
import CallMeter.Proofs.Store.Offset

/-!
# Cursors of a memory store

A cursor need not be one that the store has handed out. Any text of a 64-bit word is an offset,
and a page is what stands there among the items of the query, which may be nothing; all other
texts are refused. The end of a page has to be a word too, so the offsets just below `2 ^ 64`
stop a read, and no others do.

## Main definitions

* `MemoryStore.DenotesOffset`: a text is that of a word
* `MemoryStore.PageAt`: a page of the items from an offset on

## Main results

* `MemoryStore.offset_eq_ok_iff`: the texts that are read as offsets
* `MemoryStore.exists_pageAt`: the page of an offset with room for a page after it
* `MemoryStore.exists_scans_of_offset`: a scan from such an offset returns the items from there on
* `MemoryStore.pages_of_any_offset`: the page and the scan of any cursor
-/

namespace CallMeter

namespace MemoryStore

/-! ## Texts that are offsets -/

/-- **A text denotes an offset**: it has one or more digits, after a plus or without one, and the
number of these is below `2 ^ 64`. -/
structure DenotesOffset (cursor : String) (o : ℕ) : Prop where
  spelled : ∃ digits, (cursor.toList = digits ∨ cursor.toList = '+' :: digits) ∧ digits ≠ [] ∧
    (∀ d ∈ digits, d.isDigit = true) ∧ Decimal.value digits = o
  word : o < UInt64.size

variable {s : MemoryStore} {q : RecordQuery} {cursor : String} {o : ℕ}

/-- The digits of a word are behind its plus, or they are all of a text that has none. -/
theorem readWord?_iff_of_digits {cs digits : List Char} {n : UInt64}
    (h : cs = '+' :: digits ∨ cs = digits ∧ ∀ r, cs ≠ '+' :: r) :
    Decimal.readWord? cs = some n ↔
      digits ≠ [] ∧ (∀ d ∈ digits, d.isDigit = true) ∧ Decimal.value digits = n.toNat := by
  have read : Decimal.readWord? cs = (Decimal.readNat? digits).bind fun m =>
      if m < UInt64.size then some (UInt64.ofNat m) else none := by
    rcases h with rfl | ⟨rfl, plain⟩
    · cases h : Decimal.readNat? digits <;> simp [Decimal.readWord?, h]
    · cases h : Decimal.readNat? cs <;> simp [Decimal.readWord?, h]
  rw [read, Option.bind_eq_some_iff]
  constructor
  · rintro ⟨m, number, word⟩
    obtain ⟨nonempty, run, rfl⟩ := Decimal.readNat?_eq_some.mp number
    split_ifs at word with small
    obtain rfl := Option.some.inj word
    exact ⟨nonempty, run, (UInt64.toNat_ofNat_of_lt' small).symm⟩
  · rintro ⟨nonempty, run, number⟩
    refine ⟨n.toNat, Decimal.readNat?_eq_some.mpr ⟨nonempty, run, number.symm⟩, ?_⟩
    rw [if_pos n.toNat_lt, UInt64.ofNat_toNat]

/-- A word is read from digits, behind a plus or without one. -/
theorem readWord?_eq_some {cs : List Char} {n : UInt64} :
    Decimal.readWord? cs = some n ↔ ∃ digits, (cs = digits ∨ cs = '+' :: digits) ∧ digits ≠ [] ∧
      (∀ d ∈ digits, d.isDigit = true) ∧ Decimal.value digits = n.toNat := by
  by_cases plus : ∃ r, cs = '+' :: r
  · obtain ⟨r, rfl⟩ := plus
    rw [readWord?_iff_of_digits (.inl rfl)]
    constructor
    · intro h
      exact ⟨r, .inr rfl, h⟩
    · rintro ⟨digits, rfl | same, nonempty, run, number⟩
      · exact absurd (run '+' List.mem_cons_self) (by decide)
      · obtain ⟨-, rfl⟩ := List.cons.inj same
        exact ⟨nonempty, run, number⟩
  · rw [readWord?_iff_of_digits (.inr ⟨rfl, not_exists.mp plus⟩)]
    constructor
    · intro h
      exact ⟨cs, .inl rfl, h⟩
    · rintro ⟨digits, rfl | rfl, h⟩
      · exact h
      · exact absurd ⟨digits, rfl⟩ plus

/-- **The texts that are read as an offset** are those that denote it. -/
theorem offset_eq_ok_iff : offset (some cursor) = .ok o ↔ DenotesOffset cursor o := by
  constructor
  · intro h
    cases read : Decimal.readWord? cursor.toList with
    | none => simp [offset, read] at h
    | some n =>
      obtain rfl : n.toNat = o := by simpa [offset, read] using h
      exact ⟨readWord?_eq_some.mp read, n.toNat_lt⟩
  · rintro ⟨spelled, word⟩
    have read : Decimal.readWord? cursor.toList = some (UInt64.ofNat o) :=
      readWord?_eq_some.mpr (by rwa [UInt64.toNat_ofNat_of_lt' word])
    simp only [offset, read, UInt64.toNat_ofNat_of_lt' word]

theorem offset_eq_error (bad : ∀ o, ¬ DenotesOffset cursor o) :
    offset (some cursor) = .error (.badCursor cursor) := by
  cases read : Decimal.readWord? cursor.toList with
  | none => simp only [offset, read]
  | some n => exact absurd ⟨readWord?_eq_some.mp read, n.toNat_lt⟩ (bad n.toNat)

/-! ## Pages at any offset -/

/-- **A page at an offset** among the items found: the records of as many items as fit, one for
each, and the offset after them as the next cursor exactly if there are more. -/
structure PageAt (found : List Json) (pageSize o : ℕ) (page : RecordPage) : Prop where
  records : page.records.map some = ((found.drop o).take pageSize).map CallRecord.ofItem?
  next_isSome : page.next.isSome ↔ o + pageSize < found.length
  next : ∀ cursor, page.next = some cursor →
    o < o + pageSize ∧ DenotesOffset cursor (o + pageSize)

section Unmarked

variable (noFailure : s.failOnPage = none) (q : RecordQuery)
include noFailure

/-- **An offset with room for a page after it** has a page, which may be empty. -/
theorem exists_pageAt (denotes : DenotesOffset cursor o) (fits : o + s.pageSize < UInt64.size) :
    ∃ page, PageAt (found q s.items) s.pageSize o page ∧
      CallStore.queryPage s q (some cursor) = (.ok page, s.served 1) := by
  have wanted : ∀ item ∈ ((found q s.items).drop o).take s.pageSize, q.wants item = true := by
    intro item h
    exact wants_of_mem_found (List.mem_of_mem_drop (List.mem_of_mem_take h))
  refine ⟨_, ⟨?_, ?_, ?_⟩,
    queryPage_of_offset noFailure (offset_eq_ok_iff.mpr denotes) fits⟩
  · rw [matching_eq, ← List.map_drop, ← List.map_take, List.filterMap_map]
    exact (map_ofItem_of_wants wanted).symm
  · simp only [matching_eq, List.length_map]
    split_ifs with more <;> simp [more]
  · intro cursor h
    dsimp only at h
    split_ifs at h
    obtain rfl := Option.some.inj h
    exact ⟨Nat.lt_add_of_pos_right s.pageSize_pos, offset_eq_ok_iff.mp (offset_text fits)⟩

/-- A page whose end is no word any more is not read. -/
theorem queryPage_of_overflow (denotes : DenotesOffset cursor o)
    (beyond : UInt64.size ≤ o + s.pageSize) :
    CallStore.queryPage s q (some cursor) = (.error .offsetOverflow, s.served 1) := by
  have stuck : slice (s.matching q) s.pageSize o = .error .offsetOverflow :=
    if_neg (Nat.not_lt.mpr beyond)
  rw [queryPage_of_unmarked noFailure, offset_eq_ok_iff.mpr denotes, ← stuck]
  rfl

theorem queryPage_of_bad_offset (bad : ∀ o, ¬ DenotesOffset cursor o) :
    CallStore.queryPage s q (some cursor) = (.error (.badCursor cursor), s.served 1) := by
  rw [queryPage_of_unmarked noFailure, offset_eq_error bad]
  rfl

/-- **A scan from an offset** returns the items from there on. -/
theorem exists_scans_of_offset (denotes : DenotesOffset cursor o)
    (fits : o + s.pageSize < UInt64.size) :
    let pages := pageCount ((found q s.items).length - o) s.pageSize
    ∃ records : List CallRecord,
      records.map some = ((found q s.items).drop o).map CallRecord.ofItem? ∧
        Scans q s (some cursor) pages (.ok records) (s.served pages) := by
  intro pages
  have scan := scans_of_offset noFailure q (offset_eq_ok_iff.mpr denotes) fits
  rw [matching_eq, List.length_map, ← List.map_drop, List.filterMap_map] at scan
  have wanted : ∀ item ∈ (found q s.items).drop o, q.wants item = true := by
    intro item h
    exact wants_of_mem_found (List.mem_of_mem_drop h)
  exact ⟨_, (map_ofItem_of_wants wanted).symm, scan⟩

/-- **A scan from any cursor ends.** -/
theorem exists_scans (cursor : String) : ∃ pages r s', Scans q s (some cursor) pages r s' := by
  -- at an offset with room for a page it goes on to the last item, elsewhere it fails at once
  by_cases denotes : ∃ o, DenotesOffset cursor o
  · obtain ⟨o, denotes⟩ := denotes
    rcases Nat.lt_or_ge (o + s.pageSize) UInt64.size with fits | beyond
    · obtain ⟨records, -, scan⟩ := exists_scans_of_offset noFailure q denotes fits
      exact ⟨_, _, _, scan⟩
    · exact ⟨_, _, _, .fault (queryPage_of_overflow noFailure q denotes beyond)⟩
  · exact ⟨_, _, _, .fault (queryPage_of_bad_offset noFailure q (not_exists.mp denotes))⟩

end Unmarked

/-- **The page of any cursor.** A text that denotes no offset is refused by its name. The page at
an offset holds the items of the query that stand there in order, and its next cursor denotes a
greater offset; going on from page to page returns all items from the offset on. This needs the
end of the page to be a word: past that the read stops, and only there. From any cursor a scan
comes to an end. -/
theorem pages_of_any_offset (noFailure : s.failOnPage = none) (q : RecordQuery) : ∃ found,
    StableSorting startText ((itemsOf q.tenant s.items).filter q.wants) found ∧
    ∀ cursor,
      ((∀ o, ¬ DenotesOffset cursor o) → ∃ fault,
        CallStore.queryPage s q (some cursor) = (.error fault, s.served 1) ∧
          (ServiceFault.store fault).report =
            "Store unavailable: invalid continuation cursor: " ++ cursor) ∧
      (∀ o, DenotesOffset cursor o → o + s.pageSize < UInt64.size →
        (∃ page, PageAt found s.pageSize o page ∧
          CallStore.queryPage s q (some cursor) = (.ok page, s.served 1)) ∧
        let pages := pageCount (found.length - o) s.pageSize
        ∃ records : List CallRecord, records.map some = (found.drop o).map CallRecord.ofItem? ∧
          Scans q s (some cursor) pages (.ok records) (s.served pages)) ∧
      (∀ o, DenotesOffset cursor o → UInt64.size ≤ o + s.pageSize →
        CallStore.queryPage s q (some cursor) = (.error .offsetOverflow, s.served 1)) ∧
      ∃ pages r s', Scans q s (some cursor) pages r s' := by
  refine ⟨found q s.items, stableSorting_mergeSort startText _, fun cursor => ⟨?_, ?_, ?_, ?_⟩⟩
  · intro bad
    exact ⟨_, queryPage_of_bad_offset noFailure q bad, rfl⟩
  · intro o denotes fits
    exact ⟨exists_pageAt noFailure q denotes fits, exists_scans_of_offset noFailure q denotes fits⟩
  · intro o
    exact queryPage_of_overflow noFailure q
  · exact exists_scans noFailure q cursor

/-- Two calls, the second of which stands at an offset that is written with a plus. The offset
has room for a page after it, the last one has none, and one text is no number. -/
theorem pages_of_any_offset_behind_a_plus :
    let call (start : String) := Json.object [("startedAt", .string start)]
    let s := ((MemoryStore.empty 1 none).add "acme" (call "2024-05-02T09")).add "acme"
      (call "2024-05-02T10")
    let q : RecordQuery := ⟨"acme", "2024-05-01", "2024-05-08"⟩
    let last := UInt64.size - 1
    s.failOnPage = none ∧
      (DenotesOffset "+01" 1 ∧ 1 + s.pageSize < UInt64.size ∧
        ∃ page, CallStore.queryPage s q (some "+01") = (.ok page, s.served 1) ∧
          page.records.length = 1 ∧ page.next = none) ∧
      (DenotesOffset "18446744073709551615" last ∧ UInt64.size ≤ last + s.pageSize ∧
        CallStore.queryPage s q (some "18446744073709551615") =
          (.error .offsetOverflow, s.served 1)) ∧
      (∀ o, ¬ DenotesOffset "one" o) ∧
      ∃ fault, CallStore.queryPage s q (some "one") = (.error fault, s.served 1) := by
  intro call s q last
  have noFailure : s.failOnPage = none := rfl
  have size : s.pageSize = 1 := rfl
  have second : DenotesOffset "+01" 1 := offset_eq_ok_iff.mp rfl
  have room : 1 + s.pageSize < UInt64.size := by decide
  have at_last : DenotesOffset "18446744073709551615" last := offset_eq_ok_iff.mp rfl
  have no_room : UInt64.size ≤ last + s.pageSize := by decide
  have bad : ∀ o, ¬ DenotesOffset "one" o := by
    intro o denotes
    cases offset_eq_ok_iff.mpr denotes
  obtain ⟨found, sorted, pages⟩ := pages_of_any_offset noFailure q
  have two : found.length = 2 := sorted.perm.length_eq.trans (by decide +kernel)
  refine ⟨noFailure, ⟨second, room, ?_⟩, ⟨at_last, no_room, ?_⟩, bad, ?_⟩
  · obtain ⟨page, at_one, read⟩ := ((pages "+01").2.1 1 second room).1
    refine ⟨page, read, ?_, ?_⟩
    · have records := congrArg List.length at_one.records
      simpa [two, size] using records
    · have none_left := mt at_one.next_isSome.mp (by rw [two, size]; decide)
      simpa using none_left
  · exact (pages "18446744073709551615").2.2.1 last at_last no_room
  · obtain ⟨fault, refused, -⟩ := (pages "one").1 bad
    exact ⟨fault, refused⟩

/-- **The last offset has no page.** It is a word like any other, and the store is empty. -/
theorem no_page_at_last_offset :
    let s := MemoryStore.empty 1 none
    let q : RecordQuery := ⟨"acme", "2024", "2025"⟩
    s.failOnPage = none ∧ DenotesOffset "18446744073709551615" 18446744073709551615 ∧
      CallStore.queryPage s q (some "18446744073709551615") = (.error .offsetOverflow, s.served 1) ∧
      ¬ ∃ page, (CallStore.queryPage s q (some "18446744073709551615")).1 = .ok page := by
  intro s q
  have denotes : DenotesOffset "18446744073709551615" 18446744073709551615 :=
    offset_eq_ok_iff.mp rfl
  have stopped := queryPage_of_overflow (s := s) rfl q denotes (by decide)
  refine ⟨rfl, denotes, stopped, ?_⟩
  rintro ⟨page, read⟩
  rw [stopped] at read
  cases read

end MemoryStore

end CallMeter
