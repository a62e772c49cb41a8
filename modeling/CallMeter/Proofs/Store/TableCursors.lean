import CallMeter.Proofs.Json.Given
import CallMeter.Proofs.Json.Lexemes
import CallMeter.Proofs.Store.Keyset
import Mathlib.Data.Prod.Lex

/-!
# Cursors of a table

A cursor need not be one that the table has handed out. Any text of an array of two strings
denotes the key of these, and a page starts after that key, whether a row has it or not. All
other texts are refused, and no two keys have the same cursor.

## Main definitions

* `RowKey.Denotes`: a text is that of an array of the two strings of a key
* `RowsAfter`: the rows of a query after a key, in the order of start and record id
* `TableStore.PageOf`: a page that is cut from rows

## Main results

* `RowKey.decode?_eq_some_iff`: the texts that are read as cursors
* `RowKey.before_iff_lex`: the order of keys is that of their pairs
* `TableStore.Tidy.rowsAfter_select`: the rows from which a page is taken
* `TableStore.pages_of_any_cursor`: the page of any cursor
-/

namespace CallMeter

/-! ## Texts that are cursors -/

theorem Json.eq_string_of_settled {v : Json} {s : String} (h : v.settled = .string s) :
    v = .string s := by
  cases v with
  | string t => exact h
  | _ => cases h

namespace RowKey

/-- **A text denotes a key** if it is that of an array of the two strings of the key. -/
def Denotes (cursor : String) (k : RowKey) : Prop :=
  Json.Lexemes cursor.toList [.openArray, .text k.startedAt, .comma, .text k.id, .closeArray]

variable {cursor : String} {k : RowKey}

theorem Denotes.parse? (h : Denotes cursor k) :
    Json.parse? cursor = some (.array [.string k.startedAt, .string k.id]) := by
  rw [Json.parse?, Json.tokens?_eq_some_iff.mpr h]
  rfl

/-- An array of two strings is spelled by the two strings. -/
theorem denotes_of_parse?
    (h : Json.parse? cursor = some (.array [.string k.startedAt, .string k.id])) :
    Denotes cursor k := by
  obtain ⟨v, gives, read⟩ := Json.parse?_eq_some_iff.mp h
  cases v with
  | array items =>
    rw [Json.settled, Json.settledItems_eq, Json.array.injEq] at read
    obtain ⟨v, rest, rfl, hv, read⟩ := List.map_eq_cons_iff.mp read
    obtain ⟨w, rest, rfl, hw, read⟩ := List.map_eq_cons_iff.mp read
    obtain rfl := List.map_eq_nil_iff.mp read
    obtain rfl := Json.eq_string_of_settled hv
    obtain rfl := Json.eq_string_of_settled hw
    exact Json.tokens?_eq_some_iff.mp gives.1
  | _ => cases read

/-- **The texts that are read as a key** are those that denote it. -/
theorem decode?_eq_some_iff : decode? cursor = some k ↔ Denotes cursor k := by
  constructor
  · intro h
    unfold decode? at h
    split at h
    · next read =>
      obtain rfl := Option.some.inj h
      exact denotes_of_parse? read
    · cases h
  · intro h
    rw [decode?, h.parse?]

theorem decode?_eq_none_iff : decode? cursor = none ↔ ∀ k, ¬ Denotes cursor k := by
  simp only [Option.eq_none_iff_forall_ne_some, ne_eq, decode?_eq_some_iff]

/-- **Keys have distinct cursors.** -/
theorem encode_injective : Function.Injective encode := by
  intro k k' same
  exact Option.some.inj (by rw [← decode?_encode k, same, decode?_encode])

/-- **The order of keys** is that of the pairs of start and id. -/
theorem before_iff_lex {a b : RowKey} :
    a.before b = true ↔ toLex (a.startedAt, a.id) < toLex (b.startedAt, b.id) := by
  rw [before_iff, Prod.Lex.toLex_lt_toLex]

end RowKey

/-! ## Pages after any key -/

/-- **The rows after a key** among those stored: the rows of the tenant that start in the window
and have a greater pair of start and record id, in ascending order of these. -/
structure RowsAfter (stored : List Row) (q : RecordQuery) (k : RowKey) (later : List Row) :
    Prop where
  ascending : later.Pairwise fun a b => toLex (a.startedAt, a.id) < toLex (b.startedAt, b.id)
  mem_iff : ∀ r, r ∈ later ↔ r ∈ stored ∧ r.tenant = q.tenant ∧
    q.startIso ≤ r.startedAt ∧ r.startedAt ≤ q.endIso ∧
    toLex (k.startedAt, k.id) < toLex (r.startedAt, r.id)

theorem RowsAfter.of_perm {stored stored' later : List Row} {q : RecordQuery} {k : RowKey}
    (h : RowsAfter stored q k later) (perm : stored.Perm stored') :
    RowsAfter stored' q k later where
  ascending := h.ascending
  mem_iff r := by rw [h.mem_iff, perm.mem_iff]

namespace TableStore

variable {s : TableStore} {q : RecordQuery} {k : RowKey} {cursor : String}

/-- **A page of rows**: the records of the first ones that fit, and the key of the last of these
as the next cursor exactly if they fill the page. -/
structure PageOf (rows : List Row) (pageSize : Nat) (page : RecordPage) : Prop where
  records : page.records = (rows.take pageSize).filterMap fun r => CallRecord.ofText? r.item
  next_isSome : page.next.isSome ↔ (rows.take pageSize).length = pageSize
  next : ∀ cursor, page.next = some cursor →
    ∃ last, (rows.take pageSize).getLast? = some last ∧ cursor = last.key.encode

theorem pageOf_page (rows : List Row) {pageSize : Nat} (pos : 0 < pageSize) :
    PageOf rows pageSize (page rows pageSize) where
  records := rfl
  next_isSome := by
    by_cases full : (rows.take pageSize).length = pageSize
    · have nonempty : rows.take pageSize ≠ [] := by
        rintro e
        rw [e] at full
        exact pos.ne full
      simp only [page, if_pos full, List.getLast?_eq_some_getLast nonempty]
      exact iff_of_true rfl full
    · simp only [page, if_neg full]
      exact iff_of_false Bool.false_ne_true full
  next := by
    intro cursor h
    simp only [page] at h
    split_ifs at h
    obtain ⟨last, taken, same⟩ := Option.map_eq_some_iff.mp h
    exact ⟨last, taken, same.symm⟩

/-- **The rows from which a page is taken** are those after the key. -/
theorem Tidy.rowsAfter_select (h : s.Tidy) (q : RecordQuery) (k : RowKey) :
    RowsAfter s.rows q k (s.select q k) where
  ascending := (h.pairwise_select q k).imp RowKey.before_iff_lex.mp
  mem_iff := by
    intro r
    rw [mem_select, RowKey.before_iff_lex]
    rfl

/-- A text that denotes no key gets no page. -/
theorem queryPage_of_bad_cursor (h : ∀ k, ¬ RowKey.Denotes cursor k) :
    CallStore.queryPage s q (some cursor) = (.error (.badCursor cursor), s) := by
  show s.queryPage q (some cursor) = _
  rw [queryPage, position, RowKey.decode?_eq_none_iff.mpr h]
  rfl

/-- **The page of any cursor.** Keys read back from their cursors, and the texts of an array of
two strings are the cursors of these. A text that is none is refused by its name. A page starts
after the key of its cursor, whatever rows there are: it takes the rows after that key in order,
as many as fit, returns the records of those that decode, and names the last one taken as the
next cursor exactly if it is full. -/
theorem pages_of_any_cursor :
    (∀ k, RowKey.decode? k.encode = some k) ∧ Function.Injective RowKey.encode ∧
    (∀ cursor k, RowKey.decode? cursor = some k ↔ RowKey.Denotes cursor k) ∧
    ∀ (writes : List Row) (deployments : Deployments) (pageSize : Nat) (q : RecordQuery)
      (cursor : String),
      let s := { (empty pageSize).insertAll writes with deployments := deployments }
      ((∀ k, ¬ RowKey.Denotes cursor k) → ∃ fault,
        CallStore.queryPage s q (some cursor) = (.error fault, s) ∧
          (ServiceFault.store fault).report =
            "Store unavailable: invalid continuation cursor: " ++ cursor) ∧
      ∀ k, RowKey.Denotes cursor k → ∃ later page,
        RowsAfter (lastOf Row.slot writes) q k later ∧ PageOf later (max pageSize 1) page ∧
          CallStore.queryPage s q (some cursor) = (.ok page, s) := by
  refine ⟨RowKey.decode?_encode, RowKey.encode_injective,
    fun _ _ => RowKey.decode?_eq_some_iff, ?_⟩
  intro writes deployments pageSize q cursor s
  have written := (tidy_empty pageSize).insertAll writes
  have tidy : s.Tidy := ⟨written.inOrder, written.slots⟩
  constructor
  · intro bad
    exact ⟨.badCursor cursor, queryPage_of_bad_cursor bad, rfl⟩
  · intro k denotes
    have position : position (some cursor) = .ok k := by
      rw [TableStore.position, RowKey.decode?_eq_some_iff.mpr denotes]
    have size : max pageSize 1 = s.pageSize := (pageSize_insertAll (empty pageSize) writes).symm
    have rows := rows_insertAll_perm pageSize writes
    rw [size]
    exact ⟨s.select q k, _, (tidy.rowsAfter_select q k).of_perm rows,
      pageOf_page _ s.pageSize_pos, queryPage_of_position position⟩

/-- A cursor written by hand, with blanks and an escape, from which one call is left, and a
text with one string only. -/
theorem pages_of_any_cursor_written_by_hand :
    let row (id : String) : Row := ⟨"acme", id, "2024-05-02", "\x7b\x7d"⟩
    let s := (empty 1).insertAll [row "b", row "a"]
    let q : RecordQuery := ⟨"acme", "2024-05-01", "2024-05-08"⟩
    let cursor := "[ \"2024-05-0\\u0032\" , \"a\" ]"
    RowKey.Denotes cursor ⟨"2024-05-02", "a"⟩ ∧
      (∃ page, CallStore.queryPage s q (some cursor) = (.ok page, s) ∧ page.next.isSome) ∧
      (∀ k, ¬ RowKey.Denotes "[\"2024-05-02\"]" k) ∧
      ∃ fault, CallStore.queryPage s q (some "[\"2024-05-02\"]") = (.error fault, s) := by
  intro row s q cursor
  obtain ⟨-, -, read, pages⟩ := pages_of_any_cursor
  have denotes : RowKey.Denotes cursor ⟨"2024-05-02", "a"⟩ := by
    apply (read _ _).mp
    dsimp only [cursor]
    rfl
  have bad : ∀ k, ¬ RowKey.Denotes "[\"2024-05-02\"]" k := by
    intro k denotes
    cases (read _ k).mpr denotes
  refine ⟨denotes, ?_, bad, ?_⟩
  · obtain ⟨later, page, after, cut, taken⟩ := (pages [row "b", row "a"] [] 1 q _).2 _ denotes
    refine ⟨page, taken, cut.next_isSome.mpr ?_⟩
    have left : row "b" ∈ later :=
      (after.mem_iff _).mpr ⟨by decide, rfl, by decide, by decide,
        RowKey.before_iff_lex.mp (by decide : RowKey.before _ ⟨_, "b"⟩ = true)⟩
    rw [List.length_take]
    exact Nat.min_eq_left (List.length_pos_of_mem left)
  · obtain ⟨fault, refused, -⟩ := (pages [row "b", row "a"] [] 1 q _).1 bad
    exact ⟨fault, refused⟩

end TableStore

end CallMeter
