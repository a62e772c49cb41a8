import CallMeter.Proofs.Text.ByteOrder
import CallMeter.Proofs.Usage.Shown
import CallMeter.Proofs.Usage.Summaries
import Mathlib.Data.List.Sort

/-!
# The order of rows

A summary has one row for each tally, and its rows stand strictly in order: by their calls, and by
the bytes of their ids where these are equal. Ids are distinct, so the rows of some tallies can be
put into this order in one way only. Tallies are kept in no order of their own, and a summary is
the same whichever they are read in.

## Main definitions

* `UseCaseRow.Before`: a row stands strictly before another
* `Summary.CanonicalRows`: the rows of tallies, each once and strictly in order

## Main results

* `canonicalRows_build`: the rows of a summary are canonical
* `CanonicalRows.unique`: there is one list of canonical rows
* `rows_are_canonical`: so the rows of a summary do not depend on the order of the tallies
-/

namespace CallMeter

open Pricing (RateCard)
open Text (Utf8.encode)

/-! ## Rows in strict order -/

namespace UseCaseRow

variable {a b : UseCaseRow}

/-- **A row stands before another**: it has more calls, or as many and an id that comes first, byte
by byte. -/
def Before (a b : UseCaseRow) : Prop :=
  b.figures.calls < a.figures.calls ∨
    a.figures.calls = b.figures.calls ∧ Utf8.encode a.useCase < Utf8.encode b.useCase

instance : Decidable (a.Before b) :=
  inferInstanceAs (Decidable (_ ∨ _ ∧ _))

theorem before_of_precedes (h : a.precedes b = true) (distinct : a.useCase ≠ b.useCase) :
    a.Before b := by
  rcases precedes_iff.mp h with more | ⟨same, le⟩
  · exact .inl more
  · exact .inr ⟨same, Text.Utf8.encode_lt_encode_iff.mpr (lt_of_le_of_ne le distinct)⟩

theorem Before.asymm (h : a.Before b) : ¬ b.Before a := by
  rintro h'
  rcases h with more | ⟨same, less⟩ <;> rcases h' with more' | ⟨same', less'⟩
  · exact UInt64.lt_asymm more more'
  · exact UInt64.lt_irrefl _ (same' ▸ more)
  · exact UInt64.lt_irrefl _ (same ▸ more')
  · exact List.lt_asymm less less'

instance : Std.Asymm Before :=
  ⟨fun _ _ => Before.asymm⟩

end UseCaseRow

namespace Summary

variable {usage : Usage} {profiles : List (String × Profile)} {card : RateCard} {tenant : String}
  {window : Window} {rows rows' : List UseCaseRow}

/-- **The rows of tallies**: one that shows each of them and no others, strictly in order. -/
structure CanonicalRows (usage : Usage) (profiles : List (String × Profile)) (card : RateCard)
    (rows : List UseCaseRow) : Prop where
  one_each : ∀ id t, (id, t) ∈ usage.byUseCase →
    ∃ row, (rows.filter fun row => row.useCase = id) = [row] ∧ row.Shows profiles card id t
  known : ∀ row ∈ rows, row.useCase ∈ usage.byUseCase.map Prod.fst
  sorted : rows.Pairwise UseCaseRow.Before

theorem CanonicalRows.mem_iff (h : CanonicalRows usage profiles card rows) {row : UseCaseRow} :
    row ∈ rows ↔ ∃ id t, (id, t) ∈ usage.byUseCase ∧ row.Shows profiles card id t := by
  have only {id : String} {t : Tally} (entry : (id, t) ∈ usage.byUseCase) :
      ∃ row', row'.Shows profiles card id t ∧ (row ∈ rows ∧ row.useCase = id ↔ row = row') := by
    obtain ⟨row', one, shows⟩ := h.one_each id t entry
    have member : row ∈ rows.filter (fun row => row.useCase = id) ↔ row ∈ [row'] := by rw [one]
    rw [List.mem_filter, decide_eq_true_iff, List.mem_singleton] at member
    exact ⟨row', shows, member⟩
  constructor
  · intro hrow
    obtain ⟨⟨id, t⟩, entry, same⟩ := List.mem_map.mp (h.known row hrow)
    obtain ⟨row', shows, is⟩ := only entry
    exact ⟨id, t, entry, is.mp ⟨hrow, same.symm⟩ ▸ shows⟩
  · rintro ⟨id, t, entry, shows⟩
    obtain ⟨row', shows', is⟩ := only entry
    exact (is.mpr (shows.unique shows')).1

/-- **Canonical rows are one list.** -/
theorem CanonicalRows.unique (h : CanonicalRows usage profiles card rows)
    (h' : CanonicalRows usage profiles card rows') : rows = rows' :=
  h.sorted.eq_of_mem_iff h'.sorted fun _ => h.mem_iff.trans h'.mem_iff.symm

theorem mem_rows_build {row : UseCaseRow} :
    row ∈ (build tenant window usage profiles card).rows ↔
      ∃ id t, (id, t) ∈ usage.byUseCase ∧ row.Shows profiles card id t := by
  show row ∈ (rowsOf usage profiles card).mergeSort _ ↔ _
  rw [List.mem_mergeSort, rowsOf, List.mem_map]
  constructor
  · rintro ⟨⟨id, t⟩, entry, rfl⟩
    exact ⟨id, t, entry, UseCaseRow.shows_ofTally profiles card id t⟩
  · rintro ⟨id, t, entry, shows⟩
    exact ⟨(id, t), entry, (UseCaseRow.shows_ofTally profiles card id t).unique shows⟩

/-- **The rows of a summary are canonical.** -/
theorem canonicalRows_build (once : (usage.byUseCase.map Prod.fst).Nodup) (tenant : String)
    (window : Window) (profiles : List (String × Profile)) (card : RateCard) :
    CanonicalRows usage profiles card (build tenant window usage profiles card).rows := by
  have ids : ((build tenant window usage profiles card).rows.map UseCaseRow.useCase).Nodup :=
    (rows_perm tenant window usage profiles card).nodup_iff.mpr once
  refine ⟨fun id t entry => ?_, fun row hrow => ?_, ?_⟩
  · have shows := UseCaseRow.shows_ofTally profiles card id t
    refine ⟨_, ?_, shows⟩
    refine List.perm_singleton.mp ((List.perm_ext_iff_of_nodup (ids.of_map.filter _)
      (List.nodup_singleton _)).mpr fun row => ?_)
    rw [List.mem_filter, decide_eq_true_iff, List.mem_singleton, mem_rows_build]
    constructor
    · rintro ⟨⟨other, t', entry', shows'⟩, same⟩
      obtain rfl := shows'.useCase.symm.trans same
      obtain ⟨-, rfl⟩ := Prod.mk.inj (List.inj_on_of_nodup_map once entry' entry rfl)
      exact shows'.unique shows
    · rintro rfl
      exact ⟨⟨id, t, entry, shows⟩, rfl⟩
  · obtain ⟨id, t, entry, shows⟩ := mem_rows_build.mp hrow
    exact List.mem_map.mpr ⟨_, entry, shows.useCase.symm⟩
  · have distinct := List.pairwise_map.mp ids
    exact ((UseCaseRow.ordered_mergeSort _).and distinct).imp fun h =>
      UseCaseRow.before_of_precedes h.1 h.2

/-- **The order of rows.** The rows of a summary are those of its tallies, each once, strictly in
the order of their calls and ids. Nothing else could be so, and the order of the tallies is not
shown. -/
theorem rows_are_canonical (once : (usage.byUseCase.map Prod.fst).Nodup) (tenant : String)
    (window : Window) (profiles : List (String × Profile)) (card : RateCard) :
    CanonicalRows usage profiles card (build tenant window usage profiles card).rows ∧
    (∀ rows, CanonicalRows usage profiles card rows →
      rows = (build tenant window usage profiles card).rows) ∧
    ∀ entries, entries.Perm usage.byUseCase →
      build tenant window { usage with byUseCase := entries } profiles card =
        build tenant window usage profiles card := by
  have canonical := canonicalRows_build once tenant window profiles card
  refine ⟨canonical, fun _ h => h.unique canonical, fun entries perm => ?_⟩
  exact (@build_perm usage { usage with byUseCase := entries } rfl perm.symm once tenant window
    profiles card).symm

/-- Three of four use cases have the same number of calls, and one id begins with two bytes. -/
theorem rows_are_canonical_with_ties :
    let tally (calls : UInt64) : Tally := { Tally.empty with calls := calls }
    let entries := [("zoo", tally 2), ("été", tally 2), ("clinic", tally 5), ("bank", tally 2)]
    let profiles := [("clinic", (⟨"clinic", "Clinic", some "haiku"⟩ : Profile))]
    let window : Window := ⟨7, "2024-05-01", "2024-05-08"⟩
    let rows (entries : List (String × Tally)) :=
      (build "acme" window ⟨entries, tally 11⟩ profiles .default).rows
    (entries.map Prod.fst).Nodup ∧
      CanonicalRows ⟨entries, tally 11⟩ profiles .default (rows entries) ∧
      ((rows entries).map fun row => (row.useCase, row.name, row.modelHint, row.figures.calls)) =
        [("clinic", "Clinic", some "haiku", 5), ("bank", "bank", none, 2), ("zoo", "zoo", none, 2),
          ("été", "été", none, 2)] ∧
      rows entries.reverse = rows entries := by
  intro tally entries profiles window rows
  have once : (entries.map Prod.fst).Nodup := by decide
  let row (id : String) (t : Tally) : UseCaseRow :=
    .ofTally .default ((Entries.get? id profiles).getD (.unknown id)) id t
  let sorted := [row "clinic" (tally 5), row "bank" (tally 2), row "zoo" (tally 2),
    row "été" (tally 2)]
  have each : ∀ e ∈ entries, (sorted.filter fun r => r.useCase = e.1) = [row e.1 e.2] := by
    decide +kernel
  have canonical : CanonicalRows ⟨entries, tally 11⟩ profiles .default sorted :=
    ⟨fun id t entry => ⟨row id t, each (id, t) entry, UseCaseRow.shows_ofTally _ _ id t⟩,
      by decide +kernel, by decide +kernel⟩
  obtain ⟨-, unique, shuffled⟩ :=
    @rows_are_canonical ⟨entries, tally 11⟩ once "acme" window profiles .default
  have same : sorted = rows entries := unique sorted canonical
  refine ⟨once, same ▸ canonical, same ▸ by decide +kernel, ?_⟩
  exact congrArg Summary.rows (shuffled entries.reverse (List.reverse_perm _))

end Summary

end CallMeter
