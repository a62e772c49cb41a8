import CallMeter.Proofs.Json.Given
import CallMeter.Proofs.Json.Plain
import CallMeter.Proofs.Json.Scaling

/-!
# What texts spell

The values that come out of the reader: numbers are integers or finite doubles, an object has
each key once, and no more arrays and objects stand inside each other than may be open. The
lexer makes scalars only of numbers that are read, and a settled value has each key once.

## Main definitions

* `Legible`: values with finite numbers, nested no deeper than a number of levels

## Main results

* `Numeral.isFinite_of_number?`: numbers that are read are finite
* `legible_settled`: what a text gives is legible when it is settled
* `legible_of_parse?`: a text that is read spells a legible value
-/

namespace CallMeter.Json

open Double (isFinite_neg unsigned_toFloat)

/-! ## Numbers -/

/-- Numbers that a text can spell: integers, and doubles that are finite. -/
def Number.IsFinite : Number → Prop
  | .double x => x.isFinite = true
  | n => n.IsInteger

theorem isFinite_signed {x : Float} (h : x.isFinite = true) (negative : Bool) :
    (Number.double (if negative then -x else x)).IsFinite := by
  cases negative
  · exact h
  · exact (isFinite_neg x).trans h

/-- **Numbers that are read** are finite. -/
theorem Numeral.isFinite_of_number? {l : Numeral} {n : Number} (h : l.number? = some n) :
    n.IsFinite := by
  rw [Numeral.number?] at h
  generalize absorb 0 l.whole = absorbed at h
  obtain ⟨s, ignored⟩ := absorbed
  generalize hsign : (fun x : Float => if l.negative then -x else x) = sign at h
  have signed {x : Float} (hx : x.isFinite = true) : (Number.double (sign x)).IsFinite := by
    rw [← hsign]
    exact isFinite_signed hx l.negative
  dsimp only at h
  split_ifs at h with whole natural negative
  · obtain rfl := Option.some_inj.mp h
    trivial
  · obtain rfl := Option.some_inj.mp h
    rw [Bool.and_eq_true, decide_eq_true_iff, decide_eq_true_iff] at negative
    have half : UInt64.size / 2 < UInt64.size := by decide
    have same : (UInt64.ofNat s).toNat = s := UInt64.toNat_ofNat_of_lt' (negative.2.trans_lt half)
    refine ⟨UInt64.lt_iff_toNat_lt.mpr ?_, ?_⟩
    · rw [same]
      exact negative.1
    · rw [same]
      exact negative.2
  · obtain rfl := Option.some_inj.mp h
    exact signed (unsigned_toFloat _).isFinite
  · obtain ⟨x, hx, rfl⟩ := Option.map_eq_some_iff.mp h
    exact signed (unsigned_of_scale? (unsigned_toFloat _) hx).isFinite

theorem isFinite_of_readNumber? {cs : List Char} {n : Number} (h : readNumber? cs = some n) :
    n.IsFinite := by
  obtain ⟨l, -, hl⟩ := Option.bind_eq_some_iff.mp h
  exact Numeral.isFinite_of_number? hl

/-! ## Values -/

/-- **Legible values**: the numbers are finite, an object has each key once, and arrays and
objects stand inside each other at most `levels` deep. -/
inductive Legible : (levels : Nat) → Json → Prop
  | null {n : Nat} : Legible n .null
  | bool {n : Nat} (b : Bool) : Legible n (.bool b)
  | number {n : Nat} {x : Number} (h : x.IsFinite) : Legible n (.number x)
  | string {n : Nat} (s : String) : Legible n (.string s)
  | array {n : Nat} {items : List Json} (h : ∀ v ∈ items, Legible n v) :
      Legible (n + 1) (.array items)
  | object {n : Nat} {members : List (String × Json)} (once : (members.map Prod.fst).Nodup)
      (h : ∀ e ∈ members, Legible n e.2) : Legible (n + 1) (.object members)

/-! ## Texts -/

theorem legible_of_wordScalar? {w : List Char} {v : Json} (h : wordScalar? w = some v) (n : Nat) :
    Legible n v := by
  unfold wordScalar? at h
  split at h
  · cases h
    exact .null
  · cases h
    exact .bool true
  · cases h
    exact .bool false
  · obtain ⟨x, hx, rfl⟩ := Option.map_eq_some_iff.mp h
    exact .number (isFinite_of_readNumber? hx)

/-- **A value settled is legible** if its tokens come from a text. -/
theorem legible_settled {n : Nat} {v : Json} (h : v.Nested n) (lexed : ∀ t ∈ v.spelling, t.Lexed) :
    Legible n v.settled := by
  induction h with
  | null => exact .null
  | bool b => exact .bool b
  | string s => exact .string s
  | number x =>
    obtain ⟨w, hw⟩ := (lexed _ List.mem_cons_self).exists_word
    exact legible_of_wordScalar? hw _
  | @array n items h ih =>
    rw [settled, settledItems_eq]
    refine .array (List.forall_mem_map.mpr fun v hv => ih v hv fun t ht => lexed t ?_)
    rw [spelling, spellings_eq]
    exact List.mem_cons_of_mem _ (List.mem_append_left _
      (subset_intercalate (List.mem_map_of_mem hv) ht))
  | @object n members h ih =>
    have legible : ∀ e ∈ settledMembers members, Legible n e.2 := by
      rw [settledMembers_eq]
      refine List.forall_mem_map.mpr fun e he => ih e he fun t ht => lexed t ?_
      rw [spelling, memberSpellings_eq]
      exact List.mem_cons_of_mem _ (List.mem_append_left _ (subset_intercalate
        (List.mem_map_of_mem he) (List.mem_cons_of_mem _ (List.mem_cons_of_mem _ ht))))
    rw [settled]
    exact .object (Entries.nodup_keys_ofList _) (Entries.forall_mem_ofList legible)

/-- **A text that is read** spells a legible value. -/
theorem legible_of_parse? {text : String} {v : Json} (h : parse? text = some v) :
    Legible Reader.maxDepth v := by
  obtain ⟨given, ⟨spelled, nested⟩, rfl⟩ := parse?_eq_some_iff.mp h
  exact legible_settled nested (lexed_of_tokens? spelled)

end CallMeter.Json
