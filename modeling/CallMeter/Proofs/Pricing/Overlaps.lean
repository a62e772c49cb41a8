import CallMeter.Proofs.Pricing.Lookup
import Mathlib.Data.List.FinRange
import Mathlib.Data.Prod.Lex

/-!
# What overlaps tell

The overlaps of a card are reported pair by pair, in the order of the card. Of two keys that
overlap, the later one loses every hint that names both. If the earlier key lies inside it, that is
every hint that names it at all, and its model is never found. The empty key lies inside all others
and is named by no hint, so it takes nothing from them.

## Main definitions

* `Text.Inside`: a text that occurs in another one, letter case aside
* `RateCard.ReportsOverlaps`: the overlaps of a card are those of some places
* `RateCard.FirstNamed`: the first model that a hint names

## Main results

* `overlapsOf_eq`: overlaps are reported place by place
* `findModel?_eq_some_iff`: the model that is found is the first one that the hint names
* `not_found_of_named`: a model loses the hints that name an earlier one
* `overlaps_tell_shadowed_keys`: what a report says of all hints
-/

namespace CallMeter

namespace Text

/-- **A text lies inside another one**, letter case aside. -/
def Inside (a b : String) : Prop :=
  (lowercase a).toList <:+: (lowercase b).toList

theorem contains_iff_inside {a b : String} :
    contains (lowercase b) (lowercase a) = true ↔ Inside a b :=
  contains_iff

instance (a b : String) : Decidable (Inside a b) :=
  decidable_of_iff _ contains_iff_inside

theorem Inside.trans {a b c : String} (h : Inside a b) (h' : Inside b c) : Inside a c :=
  List.IsInfix.trans h h'

end Text

namespace Pricing.RateCard

open Text (Inside trim)

/-! ## Places of overlaps -/

section Places

variable {models : List PricedModel} {a : PricedModel} {r : List PricedModel}

theorem overlap_iff {a b : PricedModel} :
    overlap a b = true ↔ Inside a.key b.key ∨ Inside b.key a.key := by
  rw [overlap, Bool.or_eq_true, Text.contains_iff_inside, Text.contains_iff_inside, or_comm]

/-- The later places of models that overlap with the one at a place. -/
def placesAfter (models : List PricedModel) (i : Fin models.length) : List (Fin models.length) :=
  (List.finRange models.length).filter fun j => i < j ∧ overlap models[i] models[j]

/-- **The places of overlaps**, the earlier one of each pair first. -/
def overlapPlaces (models : List PricedModel) : List (Fin models.length × Fin models.length) :=
  (List.finRange models.length).flatMap fun i => (placesAfter models i).map fun j => (i, j)

theorem mem_overlapPlaces {i j : Fin models.length} :
    (i, j) ∈ overlapPlaces models ↔ i < j ∧ overlap models[i] models[j] = true := by
  simp [overlapPlaces, placesAfter]

/-- The pairs ascend, by their first places and then by their second ones. -/
theorem pairwise_overlapPlaces (models : List PricedModel) :
    (overlapPlaces models).Pairwise (Prod.Lex (· < ·) (· < ·)) := by
  have ascend := List.pairwise_lt_finRange models.length
  rw [overlapPlaces, List.pairwise_flatMap]
  constructor
  · intro i _
    rw [List.pairwise_map]
    exact (ascend.filter _).imp fun lt => .right _ lt
  · refine ascend.imp ?_
    intro i i' lt p hp p' hp'
    obtain ⟨j, -, rfl⟩ := List.mem_map.mp hp
    obtain ⟨j', -, rfl⟩ := List.mem_map.mp hp'
    exact .left _ _ lt

/-- Places that leave out the first one. -/
theorem filter_finRange_succ {n : ℕ} {p : Fin (n + 1) → Bool} (first : p 0 = false) :
    (List.finRange (n + 1)).filter p =
      ((List.finRange n).filter fun j => p j.succ).map Fin.succ := by
  rw [List.finRange_succ, List.filter_cons_of_neg (by rw [first]; exact Bool.false_ne_true),
    List.filter_map]
  rfl

theorem placesAfter_zero :
    placesAfter (a :: r) (0 : Fin (r.length + 1)) =
      ((List.finRange r.length).filter fun j => overlap a r[j]).map Fin.succ := by
  rw [placesAfter]
  refine (filter_finRange_succ (by simp)).trans ?_
  simp

theorem placesAfter_succ (i : Fin r.length) :
    placesAfter (a :: r) i.succ = (placesAfter r i).map Fin.succ := by
  rw [placesAfter]
  refine (filter_finRange_succ (by simp)).trans ?_
  simp [placesAfter]

/-- **Overlaps are reported place by place.** -/
theorem overlapsOf_eq (models : List PricedModel) :
    overlapsOf models = (overlapPlaces models).map fun p => (models[p.1].key, models[p.2].key) := by
  induction models with
  | nil => rfl
  | cons a r ih =>
    have first : r.filter (overlap a) =
        ((List.finRange r.length).filter fun j => overlap a r[j]).map fun j => r[j] := by
      conv_lhs => rw [← List.map_getElem_finRange r, List.filter_map]
      rfl
    have places : overlapPlaces (a :: r) =
        (placesAfter (a :: r) (0 : Fin (r.length + 1))).map (fun j => (0, j)) ++
          (List.finRange r.length).flatMap fun i =>
            (placesAfter (a :: r) i.succ).map fun j => (i.succ, j) := by
      show (List.finRange (r.length + 1)).flatMap _ = _
      rw [List.finRange_succ, List.flatMap_cons, List.flatMap_map]
    rw [overlapsOf, ih, first, places, placesAfter_zero]
    simp only [placesAfter_succ, overlapPlaces, List.map_append, List.map_flatMap, List.map_map]
    rfl

end Places

variable {card : RateCard} {hint : Option String} {text : String} {m : PricedModel}

/-- **The overlaps of a card are those of some places**: of each pair of models, the earlier one
first, of which one key lies inside the other, once and in the order of the card. -/
structure ReportsOverlaps (card : RateCard)
    (places : List (Fin card.models.length × Fin card.models.length)) : Prop where
  ascend : places.Pairwise (Prod.Lex (· < ·) (· < ·))
  mem_iff : ∀ i j, (i, j) ∈ places ↔ i < j ∧
    (Inside card.models[i].key card.models[j].key ∨ Inside card.models[j].key card.models[i].key)
  overlaps_eq : card.overlaps = places.map fun p => (card.models[p.1].key, card.models[p.2].key)

theorem reportsOverlaps (card : RateCard) : card.ReportsOverlaps (overlapPlaces card.models) where
  ascend := pairwise_overlapPlaces card.models
  mem_iff _ _ := by rw [mem_overlapPlaces, overlap_iff]
  overlaps_eq := overlapsOf_eq card.models

/-- A reported pair stands at two places, the earlier one first. -/
theorem exists_places_of_mem_overlaps {a b : String} (h : (a, b) ∈ card.overlaps) :
    ∃ i j : Fin card.models.length, i < j ∧ card.models[i].key = a ∧ card.models[j].key = b := by
  rw [(reportsOverlaps card).overlaps_eq] at h
  obtain ⟨⟨i, j⟩, hij, keys⟩ := List.mem_map.mp h
  obtain ⟨rfl, rfl⟩ := Prod.mk.inj keys
  exact ⟨i, j, (mem_overlapPlaces.mp hij).1, rfl, rfl⟩

/-! ## The first model that a hint names -/

theorem names_iff : names (some text) m = true ↔ m.key ≠ "" ∧ Inside m.key (trim text) := by
  rw [names, Option.any_some, named, Bool.and_eq_true, Text.contains_iff_inside,
    Bool.not_eq_true', ← Bool.not_eq_true, String.isEmpty_iff]

/-- **A hint names the model at a place first**: its key occurs in the hint, and no earlier one
does that is not empty. -/
structure FirstNamed (card : RateCard) (text : String) (i : Fin card.models.length) : Prop where
  ne_empty : card.models[i].key ≠ ""
  inside : Inside card.models[i].key (trim text)
  earlier : ∀ j < i, card.models[j].key ≠ "" → ¬ Inside card.models[j].key (trim text)

/-- **The model that is found** is the first one that the hint names. -/
theorem findModel?_eq_some_iff :
    card.findModel? hint = some m ↔
      ∃ text i, hint = some text ∧ card.models[i] = m ∧ card.FirstNamed text i := by
  cases hint with
  | none => exact iff_of_false nofun nofun
  | some text =>
    rw [findModel?_eq, List.find?_eq_some_iff_getElem, names_iff]
    constructor
    · rintro ⟨⟨ne_empty, inside⟩, i, hi, rfl, earlier⟩
      refine ⟨text, ⟨i, hi⟩, rfl, rfl, ne_empty, inside, fun j hj ne inside => ?_⟩
      have unnamed := earlier j hj
      rw [Bool.not_eq_true', ← Bool.not_eq_true, names_iff] at unnamed
      exact unnamed ⟨ne, inside⟩
    · rintro ⟨_, i, ⟨⟩, rfl, first⟩
      refine ⟨⟨first.ne_empty, first.inside⟩, i, i.isLt, rfl, fun j hj => ?_⟩
      rw [Bool.not_eq_true', ← Bool.not_eq_true, names_iff]
      exact fun h => first.earlier ⟨j, hj.trans i.isLt⟩ hj h.1 h.2

/-- **A model loses the hints that name an earlier one**, if its key is its own. -/
theorem not_found_of_named (once : (card.models.map PricedModel.key).Nodup)
    {i j : Fin card.models.length} (lt : i < j) (ne_empty : card.models[i].key ≠ "")
    (inside : Inside card.models[i].key (trim text))
    (found : card.findModel? (some text) = some m) : m.key ≠ card.models[j].key := by
  obtain ⟨_, k, ⟨⟩, rfl, first⟩ := findModel?_eq_some_iff.mp found
  intro same
  have place : k = j := by
    have hk : k.val < (card.models.map PricedModel.key).length := by simp
    have hj : j.val < (card.models.map PricedModel.key).length := by simp
    have keys : (card.models.map PricedModel.key)[k.val] =
        (card.models.map PricedModel.key)[j.val] := by
      rwa [List.getElem_map, List.getElem_map]
    exact Fin.ext (once.getElem_inj_iff.mp keys)
  exact first.earlier i (place ▸ lt) ne_empty inside

/-! ## Reports -/

/-- **What the overlaps of a card tell.** They are reported exactly. Of a reported pair with an
earlier key that is not empty, the later model loses all hints that name both, and is never found
if the earlier key lies inside its own. What is found for a hint is the first model it names. -/
theorem overlaps_tell_shadowed_keys (card : RateCard) :
    (∃ places, card.ReportsOverlaps places) ∧
    ((card.models.map PricedModel.key).Nodup → ∀ a b, (a, b) ∈ card.overlaps → a ≠ "" →
      (∀ text, Inside a (trim text) → Inside b (trim text) →
        ∀ m, card.findModel? (some text) = some m → m.key ≠ b) ∧
      (Inside a b → ∀ hint m, card.findModel? hint = some m → m.key ≠ b)) ∧
    ∀ hint m, card.findModel? hint = some m ↔
      ∃ text i, hint = some text ∧ card.models[i] = m ∧ card.FirstNamed text i := by
  refine ⟨⟨_, reportsOverlaps card⟩, ?_, fun _ _ => findModel?_eq_some_iff⟩
  intro once a b reported ne_empty
  obtain ⟨i, j, lt, rfl, rfl⟩ := exists_places_of_mem_overlaps reported
  constructor
  · intro text inside _ m found
    exact not_found_of_named once lt ne_empty inside found
  · intro dead hint m found same
    obtain ⟨text, k, rfl, rfl, first⟩ := findModel?_eq_some_iff.mp found
    refine not_found_of_named once lt ne_empty ?_ found same
    exact dead.trans (same ▸ first.inside)

/-- A key inside a later one takes all its hints, one around it those that name both, and the
empty key none. -/
theorem overlaps_tell_shadowed_haiku :
    let models : List PricedModel :=
      [⟨"", ⟨9, 9⟩⟩, ⟨"claude-3", ⟨3, 15⟩⟩, ⟨"CLAUDE-3-haiku", ⟨1, 3⟩⟩, ⟨"haiku", ⟨1, 2⟩⟩]
    let card : RateCard := { default with models := models }
    (card.models.map PricedModel.key).Nodup ∧
      card.overlaps = [("", "claude-3"), ("", "CLAUDE-3-haiku"), ("", "haiku"),
        ("claude-3", "CLAUDE-3-haiku"), ("CLAUDE-3-haiku", "haiku")] ∧
      (∀ hint m, card.findModel? hint = some m → m.key ≠ "CLAUDE-3-haiku") ∧
      (∀ m, card.findModel? (some " claude-3-HAIKU ") = some m → m.key ≠ "haiku") ∧
      card.findModel? (some " claude-3-HAIKU ") = some ⟨"claude-3", ⟨3, 15⟩⟩ := by
  intro models card
  have once : (card.models.map PricedModel.key).Nodup := by decide
  have reported : card.overlaps = [("", "claude-3"), ("", "CLAUDE-3-haiku"), ("", "haiku"),
      ("claude-3", "CLAUDE-3-haiku"), ("CLAUDE-3-haiku", "haiku")] := by decide
  have shadowed := (overlaps_tell_shadowed_keys card).2.1 once
  refine ⟨once, reported, ?_, ?_, by decide⟩
  · exact (shadowed "claude-3" "CLAUDE-3-haiku" (by rw [reported]; decide) (by decide)).2
      (by decide)
  · exact (shadowed "CLAUDE-3-haiku" "haiku" (by rw [reported]; decide) (by decide)).1
      " claude-3-HAIKU " (by decide) (by decide)

end Pricing.RateCard

end CallMeter
