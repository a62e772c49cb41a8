import CallMeter.Pricing.RateCard
import Mathlib.Data.List.Infix
import Mathlib.Data.List.Pairwise

/-!
# Which model a hint names

A hint names the models whose keys occur in it, and the first of them on the card is found. So the
order of the card matters for a hint exactly if the hint names two models. On a card without
overlaps no key that a hint names lies inside another one, but keys may well stand side by side.

## Main definitions

* `RateCard.names`: the models that a hint names
* `RateCard.IgnoresOrder`: a hint for which the order of a card does not matter

## Main results

* `findModel?_eq`: the model that is found is the first one that the hint names
* `ignoresOrder_iff`: the order matters for a hint that names two models, and for no other
* `ignoresOrder_of_no_overlaps`: what a card without overlaps guarantees
-/

namespace CallMeter

/-! ## Lower case -/

namespace Text

theorem lowerChar_ne_nil (c : Char) : lowerChar c ≠ [] := by
  unfold lowerChar
  dsimp only
  split_ifs
  · exact List.cons_ne_nil _ _
  · exact List.cons_ne_nil _ _
  · split <;> exact List.cons_ne_nil _ _

/-- Only the empty text has an empty lower case. -/
theorem lowercase_ne_empty {s : String} (h : s ≠ "") : lowercase s ≠ "" := by
  rw [lowercase, Ne, String.ofList_eq_empty_iff]
  obtain ⟨c, r, hs⟩ := List.exists_cons_of_ne_nil (mt String.toList_eq_nil_iff.mp h)
  rw [hs, lowerAfter]
  split
  · exact List.cons_ne_nil _ _
  · exact List.append_ne_nil_of_left_ne_nil (lowerChar_ne_nil c) _

theorem contains_iff {hay needle : String} :
    contains hay needle = true ↔ needle.toList <:+: hay.toList :=
  occursIn_iff _ _

/-- A text occurs in whatever contains a text that it occurs in. -/
theorem contains_trans {a b c : String} (h : contains b a = true) (h' : contains c b = true) :
    contains c a = true :=
  contains_iff.mpr ((contains_iff.mp h).trans (contains_iff.mp h'))

end Text

namespace Pricing.RateCard

open Text (contains lowercase trim)

variable {card : RateCard} {hint : Option String} {a b : PricedModel}

/-! ## Names -/

/-- **A hint names a model** if the key occurs in it, letter case and white space around the hint
aside. -/
def names (hint : Option String) (m : PricedModel) : Bool :=
  hint.any fun text => named (lowercase (trim text)) m

/-- **The model that is found** is the first one that the hint names. -/
theorem findModel?_eq (card : RateCard) (hint : Option String) :
    card.findModel? hint = card.models.find? (names hint) := by
  cases hint with
  | none => exact (List.find?_eq_none.mpr fun _ _ => Bool.false_ne_true).symm
  | some text =>
    rw [findModel?]
    split_ifs with blank
    · rw [String.isEmpty_iff] at blank
      refine (List.find?_eq_none.mpr fun m _ named => ?_).symm
      rw [names, Option.any_some, RateCard.named, blank, Bool.and_eq_true, Bool.not_eq_true',
        Text.contains_iff, String.toList_empty, List.infix_nil, String.toList_eq_nil_iff] at named
      refine Text.lowercase_ne_empty ?_ named.2
      rintro empty
      rw [empty] at named
      exact absurd named.1 (by decide)
    · rfl

/-! ## Order -/

/-- **The order of a card does not matter** for a hint. -/
def IgnoresOrder (card : RateCard) (hint : Option String) : Prop :=
  ∀ models : List PricedModel, card.models.Perm models →
    { card with models := models }.findModel? hint = card.findModel? hint

/-- The first match is the same in any order if there is only one. -/
theorem find?_perm {α : Type} {p : α → Bool} {l l' : List α} (perm : l.Perm l')
    (one : ∀ a ∈ l, ∀ b ∈ l, p a = true → p b = true → a = b) : l'.find? p = l.find? p := by
  cases h : l.find? p with
  | none =>
    rw [List.find?_eq_none] at h ⊢
    exact fun a ha => h a (perm.mem_iff.mpr ha)
  | some a =>
    cases h' : l'.find? p with
    | none =>
      rw [List.find?_eq_none] at h'
      exact absurd (List.find?_some h) (h' a (perm.mem_iff.mp (List.mem_of_find?_eq_some h)))
    | some b =>
      exact congrArg some (one b (perm.mem_iff.mpr (List.mem_of_find?_eq_some h')) a
        (List.mem_of_find?_eq_some h) (List.find?_some h') (List.find?_some h))

/-- **The order matters for a hint that names two models**, and for no other. -/
theorem ignoresOrder_iff :
    card.IgnoresOrder hint ↔
      ∀ a ∈ card.models, ∀ b ∈ card.models, names hint a = true → names hint b = true → a = b := by
  constructor
  · intro same a ha b hb named named'
    have first {m : PricedModel} (hm : m ∈ card.models) (named : names hint m = true) :
        card.findModel? hint = some m := by
      rw [← same _ (List.perm_cons_erase hm), findModel?_eq, List.find?_cons_of_pos named]
    exact Option.some_inj.mp ((first ha named).symm.trans (first hb named'))
  · intro one models perm
    rw [findModel?_eq, findModel?_eq]
    exact find?_perm perm one

/-! ## Overlaps -/

theorem overlap_comm (a b : PricedModel) : overlap a b = overlap b a :=
  Bool.or_comm _ _

/-- A card has no overlaps if no key lies inside another one. -/
theorem overlapsOf_eq_nil_iff {models : List PricedModel} :
    overlapsOf models = [] ↔ models.Pairwise fun a b => ¬ overlap a b = true := by
  induction models with
  | nil => exact iff_of_true rfl .nil
  | cons a r ih =>
    rw [overlapsOf, List.append_eq_nil_iff, List.map_eq_nil_iff, List.filter_eq_nil_iff, ih,
      List.pairwise_cons]

theorem eq_of_overlap (apart : card.overlaps = []) (ha : a ∈ card.models) (hb : b ∈ card.models)
    (h : overlap a b = true) : a = b := by
  by_contra other
  have : Std.Symm fun a b : PricedModel => ¬ overlap a b = true :=
    ⟨fun a b h => by rwa [overlap_comm]⟩
  exact (overlapsOf_eq_nil_iff.mp apart).forall ha hb other h

theorem overlap_of_key_eq (h : a.key = b.key) : overlap a b = true := by
  rw [overlap, h, Bool.or_self, Text.contains_iff]

/-- **A card without overlaps** has each key once. -/
theorem nodup_keys_of_no_overlaps (apart : card.overlaps = []) :
    (card.models.map PricedModel.key).Nodup :=
  List.pairwise_map.mpr ((overlapsOf_eq_nil_iff.mp apart).imp fun h same =>
    h (overlap_of_key_eq same))

/-- **What a card without overlaps guarantees.** Its keys are distinct, and its order matters for a
hint only if the hint names two of them. No key lies inside another one, and so the order does not
matter for a hint that lies inside a key. Of the models that a hint names, the first is found. -/
theorem ignoresOrder_of_no_overlaps (apart : card.overlaps = []) (hint : Option String) :
    (card.IgnoresOrder hint ↔ ∀ a ∈ card.models, ∀ b ∈ card.models,
      names hint a = true → names hint b = true → a.key = b.key) ∧
    (∀ a ∈ card.models, ∀ b ∈ card.models, a.key ≠ b.key →
      contains (lowercase b.key) (lowercase a.key) = false) ∧
    (∀ m ∈ card.models,
      (∀ text ∈ hint, contains (lowercase m.key) (lowercase (trim text)) = true) →
      card.IgnoresOrder hint) ∧
    (card.models.map PricedModel.key).Nodup ∧
    ∀ m, card.findModel? hint = some m ↔ names hint m = true ∧ ∃ before after,
      card.models = before ++ m :: after ∧ ∀ b ∈ before, names hint b = false := by
  have same_model_iff : card.IgnoresOrder hint ↔ ∀ a ∈ card.models, ∀ b ∈ card.models,
      names hint a = true → names hint b = true → a.key = b.key := by
    rw [ignoresOrder_iff]
    constructor
    · intro one a ha b hb named named'
      rw [one a ha b hb named named']
    · intro one a ha b hb named named'
      exact eq_of_overlap apart ha hb (overlap_of_key_eq (one a ha b hb named named'))
  refine ⟨same_model_iff, ?_, ?_, nodup_keys_of_no_overlaps apart, fun m => ?_⟩
  · intro a ha b hb other
    by_contra inside
    refine other (congrArg PricedModel.key (eq_of_overlap apart ha hb ?_))
    rw [overlap, Bool.or_eq_true]
    exact .inr (Bool.not_eq_false _ ▸ inside)
  · intro m hm inside
    -- whatever the hint names lies inside the key as well
    have only {a : PricedModel} (ha : a ∈ card.models) (named : names hint a = true) : a = m := by
      obtain ⟨text, ht, named⟩ := (Option.any_eq_true _ _).mp named
      rw [RateCard.named, Bool.and_eq_true] at named
      refine eq_of_overlap apart ha hm ?_
      rw [overlap, Bool.or_eq_true]
      exact .inr (Text.contains_trans named.2 (inside text ht))
    rw [same_model_iff]
    intro a ha b hb named named'
    rw [only ha named, only hb named']
  · simp only [findModel?_eq, List.find?_eq_some_iff_append, Bool.not_eq_true']

theorem ignoresOrder_of_haiku :
    let card : RateCard := { default with models := [⟨"haiku", ⟨1, 3⟩⟩, ⟨"Sonnet", ⟨3, 15⟩⟩] }
    card.overlaps = [] ∧ card.IgnoresOrder (some " claude-3-HAIKU ") ∧
      card.IgnoresOrder (some "Son") := by
  intro card
  have apart : card.overlaps = [] := by decide
  refine ⟨apart, (ignoresOrder_of_no_overlaps apart _).1.mpr (by decide), ?_⟩
  refine (ignoresOrder_of_no_overlaps apart _).2.2.1 ⟨"Sonnet", ⟨3, 15⟩⟩ (.tail _ (.head _)) ?_
  rintro _ ⟨⟩
  decide

/-- Keys that keep apart may still stand side by side in a hint, and then the order decides. -/
theorem not_ignoresOrder_of_two_names :
    let card : RateCard := { default with models := [⟨"haiku", ⟨1, 3⟩⟩, ⟨"sonnet", ⟨3, 15⟩⟩] }
    (card.models.map PricedModel.key).Nodup ∧ card.overlaps = [] ∧
      ¬ card.IgnoresOrder (some "haiku or sonnet") := by
  intro card
  refine ⟨by decide, by decide, fun same => ?_⟩
  exact absurd (same card.models.reverse (List.reverse_perm _).symm) (by decide)

end Pricing.RateCard

end CallMeter
