import CallMeter.Store.Table
import Mathlib.Data.List.Induction
import Mathlib.Data.List.Nodup
import Mathlib.Data.String.Basic

/-!
# The rows of a table

The rows of a table stand in the order of their keys, and a tenant has one row under a record
id. Every write keeps this. After a run of writes the table holds exactly the rows that were
not written again later.

## Main definitions

* `Row.slot`: what a row is replaced by, its tenant and record id
* `TableStore.Tidy`: rows in order, one for each slot
* `lastOf`: the elements of a list that no later one replaces
* `TableStore.insertAll`: a table after a run of writes

## Main results

* `Tidy.insertAll`: writes keep a table tidy
* `rows_insertAll_perm`: the rows that stand after a run of writes
-/

namespace CallMeter

/-! ## The order of keys -/

namespace RowKey

variable {a b c : RowKey}

theorem before_iff :
    a.before b = true ↔ a.startedAt < b.startedAt ∨ a.startedAt = b.startedAt ∧ a.id < b.id := by
  simp [before]

theorem before_irrefl (a : RowKey) : ¬ a.before a = true := by
  simp [before_iff]

theorem before_trans (hab : a.before b = true) (hbc : b.before c = true) : a.before c = true := by
  rw [before_iff] at *
  rcases hab with hab | ⟨eab, hab⟩ <;> rcases hbc with hbc | ⟨ebc, hbc⟩
  · exact .inl (hab.trans hbc)
  · exact .inl (ebc ▸ hab)
  · exact .inl (eab ▸ hbc)
  · exact .inr ⟨eab.trans ebc, hab.trans hbc⟩

theorem before_asymm (h : a.before b = true) : ¬ b.before a = true :=
  fun h' => before_irrefl a (before_trans h h')

theorem before_trichotomy (a b : RowKey) : a.before b = true ∨ a = b ∨ b.before a = true := by
  obtain ⟨s, i⟩ := a
  obtain ⟨t, j⟩ := b
  simp only [before_iff, RowKey.mk.injEq]
  rcases lt_trichotomy s t with h | rfl | h
  · exact .inl (.inl h)
  · rcases lt_trichotomy i j with h | rfl | h
    · exact .inl (.inr ⟨rfl, h⟩)
    · exact .inr (.inl ⟨rfl, rfl⟩)
    · exact .inr (.inr (.inr ⟨rfl, h⟩))
  · exact .inr (.inr (.inl h))

/-- A key that is not before another is not before what comes after that one. -/
theorem before_of_not_before (hab : ¬ b.before a = true) (hbc : b.before c = true) :
    a.before c = true := by
  rcases before_trichotomy a b with h | rfl | h
  · exact before_trans h hbc
  · exact hbc
  · exact absurd h hab

theorem empty_lt_iff (s : String) : "" < s ↔ s ≠ "" := by
  rw [String.lt_iff_toList_lt, ne_eq, ← String.toList_inj]
  cases s.toList <;> simp

theorem origin_before_iff : origin.before a = true ↔ a ≠ origin := by
  obtain ⟨s, i⟩ := a
  simp only [before_iff, origin, empty_lt_iff, ne_eq, RowKey.mk.injEq]
  tauto

end RowKey

/-! ## Tidy tables -/

/-- **Slot** of a row: a row replaces the one of the same tenant under the same record id. -/
def Row.slot (r : Row) : String × String :=
  (r.tenant, r.id)

/-- Rows in the order of their keys. -/
def InOrder (rows : List Row) : Prop :=
  rows.Pairwise fun a b => ¬ b.key.before a.key = true

theorem insertOrdered_perm (row : Row) (rows : List Row) :
    (insertOrdered row rows).Perm (row :: rows) := by
  induction rows with
  | nil => exact .refl _
  | cons r rest ih =>
    unfold insertOrdered
    split
    · exact (ih.cons r).trans (.swap row r rest)
    · exact .refl _

theorem InOrder.insertOrdered {rows : List Row} (h : InOrder rows) (row : Row) :
    InOrder (insertOrdered row rows) := by
  induction rows with
  | nil => exact List.pairwise_singleton _ _
  | cons r rest ih =>
    obtain ⟨hr, hrest⟩ := List.pairwise_cons.mp h
    unfold CallMeter.insertOrdered
    split
    · next hb =>
      refine List.pairwise_cons.mpr ⟨?_, ih hrest⟩
      intro x hx
      rcases List.mem_cons.mp ((insertOrdered_perm row rest).mem_iff.mp hx) with rfl | hx
      · exact RowKey.before_asymm hb
      · exact hr x hx
    · next hb =>
      refine List.pairwise_cons.mpr ⟨?_, h⟩
      intro x hx
      rcases List.mem_cons.mp hx with rfl | hx
      · exact hb
      · exact fun hx' => hb (RowKey.before_of_not_before (hr x hx) hx')

namespace TableStore

/-- **Tidy tables**: rows in the order of their keys, one for each slot. -/
structure Tidy (s : TableStore) : Prop where
  inOrder : InOrder s.rows
  slots : (s.rows.map Row.slot).Nodup

theorem tidy_empty (pageSize : Nat) : (empty pageSize).Tidy :=
  ⟨List.Pairwise.nil, List.nodup_nil⟩

variable {s : TableStore}

/-- A write puts its row in place of the one in the same slot. -/
theorem rows_insert_perm (s : TableStore) (row : Row) :
    (s.insert row).rows.Perm (row :: s.rows.filter fun r => r.slot ≠ row.slot) := by
  have e : (fun r : Row => !(r.tenant == row.tenant && r.id == row.id)) =
      fun r => decide (r.slot ≠ row.slot) := by
    funext r
    simp only [Row.slot, ne_eq, Prod.mk.injEq, Bool.not_eq_eq_eq_not]
    grind
  rw [insert, e]
  exact insertOrdered_perm _ _

theorem mem_insert {row r : Row} :
    r ∈ (s.insert row).rows ↔ r = row ∨ r ∈ s.rows ∧ r.slot ≠ row.slot := by
  simp [(rows_insert_perm s row).mem_iff]

/-- **A write keeps a table tidy.** -/
theorem Tidy.insert (h : s.Tidy) (row : Row) : (s.insert row).Tidy where
  inOrder := InOrder.insertOrdered (List.Pairwise.filter _ h.inOrder) row
  slots := by
    rw [((rows_insert_perm s row).map _).nodup_iff, List.map_cons, List.nodup_cons]
    refine ⟨?_, (List.filter_sublist.map _).nodup h.slots⟩
    intro hm
    obtain ⟨r, hr, e⟩ := List.mem_map.mp hm
    exact of_decide_eq_true (List.mem_filter.mp hr).2 e

/-- Rows of a tidy table in the same slot are the same row. -/
theorem Tidy.eq_of_slot (h : s.Tidy) {r r' : Row} (hr : r ∈ s.rows) (hr' : r' ∈ s.rows)
    (e : r.slot = r'.slot) : r = r' :=
  List.inj_on_of_nodup_map h.slots hr hr' e

/-! ## Runs of writes -/

/-- A table after a run of writes. -/
def insertAll (s : TableStore) (writes : List Row) : TableStore :=
  writes.foldl insert s

@[simp] theorem pageSize_insertAll (s : TableStore) (writes : List Row) :
    (s.insertAll writes).pageSize = s.pageSize := by
  induction writes generalizing s with
  | nil => rfl
  | cons w writes ih => exact ih (s.insert w)

/-- The rows after a run of writes depend on the rows before it only. -/
theorem rows_insertAll_congr {s t : TableStore} (h : s.rows = t.rows) (writes : List Row) :
    (s.insertAll writes).rows = (t.insertAll writes).rows := by
  induction writes generalizing s t with
  | nil => exact h
  | cons w writes ih => exact ih (by simp only [insert, h])

theorem Tidy.insertAll (h : s.Tidy) (writes : List Row) : (s.insertAll writes).Tidy := by
  induction writes generalizing s with
  | nil => exact h
  | cons w writes ih => exact ih (h.insert w)

end TableStore

/-! ## The elements that stand -/

section LastOf

variable {α β κ : Type} [DecidableEq κ]

/-- **The elements that stand**: those of a list that no later one with the same key replaces. -/
def lastOf (key : α → κ) : List α → List α
  | [] => []
  | a :: rest => if key a ∈ rest.map key then lastOf key rest else a :: lastOf key rest

theorem lastOf_append_singleton (key : α → κ) (l : List α) (a : α) :
    lastOf key (l ++ [a]) = ((lastOf key l).filter fun b => key b ≠ key a) ++ [a] := by
  induction l with
  | nil => simp [lastOf]
  | cons b l ih =>
    simp only [List.cons_append, lastOf, List.map_append, List.map_singleton, List.mem_append,
      List.mem_singleton, ih]
    by_cases hb : key b ∈ l.map key
    · simp only [hb, true_or, if_true]
    · by_cases ha : key b = key a
      · rw [if_pos (.inr ha), if_neg hb, List.filter_cons_of_neg (by simp [ha])]
      · have hn : ¬ (key b ∈ l.map key ∨ key b = key a) := not_or.mpr ⟨hb, ha⟩
        rw [if_neg hn, if_neg hb, List.filter_cons_of_pos (by simp [ha]), List.cons_append]

theorem lastOf_map (key : β → κ) (f : α → β) (l : List α) :
    lastOf key (l.map f) = (lastOf (fun a => key (f a)) l).map f := by
  induction l with
  | nil => rfl
  | cons a rest ih =>
    rw [List.map_cons, lastOf, lastOf, ih, List.map_map, Function.comp_def]
    split <;> rfl

/-- Under distinct keys nothing is replaced. -/
theorem lastOf_of_nodup {key : α → κ} {l : List α} (h : (l.map key).Nodup) : lastOf key l = l := by
  induction l with
  | nil => rfl
  | cons a rest ih =>
    obtain ⟨ha, hrest⟩ := List.nodup_cons.mp h
    rw [lastOf, if_neg ha, ih hrest]

/-- Elements of other keys replace nothing that a choice by the key keeps. -/
theorem filter_lastOf {key : α → κ} {p : α → Bool} (hp : ∀ a b, key a = key b → p a = p b)
    (l : List α) : (lastOf key l).filter p = lastOf key (l.filter p) := by
  induction l with
  | nil => rfl
  | cons a rest ih =>
    cases ha : p a with
    | false =>
      rw [List.filter_cons_of_neg (by simp [ha]), ← ih, lastOf]
      split
      · rfl
      · rw [List.filter_cons_of_neg (by simp [ha])]
    | true =>
      have again : key a ∈ (rest.filter p).map key ↔ key a ∈ rest.map key := by
        simp only [List.mem_map, List.mem_filter]
        constructor
        · rintro ⟨b, ⟨hb, -⟩, e⟩
          exact ⟨b, hb, e⟩
        · rintro ⟨b, hb, e⟩
          exact ⟨b, ⟨hb, (hp b a e).trans ha⟩, e⟩
      rw [List.filter_cons_of_pos ha, lastOf, lastOf, ← ih]
      by_cases hr : key a ∈ rest.map key
      · rw [if_pos hr, if_pos (again.mpr hr)]
      · rw [if_neg hr, if_neg (mt again.mp hr), List.filter_cons_of_pos ha]

end LastOf

/-- **The rows that stand** after a run of writes are those not written again later. -/
theorem TableStore.rows_insertAll_perm (pageSize : Nat) (writes : List Row) :
    ((empty pageSize).insertAll writes).rows.Perm (lastOf Row.slot writes) := by
  induction writes using List.reverseRecOn with
  | nil => exact .refl _
  | append_singleton writes w ih =>
    rw [insertAll, List.foldl_append, lastOf_append_singleton]
    refine (rows_insert_perm _ w).trans ?_
    exact ((ih.filter _).cons w).trans (List.perm_append_singleton w _).symm

end CallMeter
