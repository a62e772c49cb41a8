import CallMeter.Proofs.Json.Given
import CallMeter.Record
import Mathlib.Data.List.Forall2
import Mathlib.Data.List.Perm.Basic

/-!
# Members by their last values

What is read under a key of an object is the last value given for it, and nothing else that the
text gives. So texts can be compared by what they give: at a path of keys, in all but the order of
their keys, or after edits that leave the last values of the other keys alone.

## Main definitions

* `lastGiven?`: the last value that is given for a key
* `DiffersAt`: values that are the same without what stands at a path of keys
* `EditedAt`: members that come from others by edits at one key, and by those that change nothing
* `Agree`: values that come to the same

## Main results

* `get?_settled`: the members of an object that is read, in their last values
* `DiffersAt.lastGiven?_eq`, `DiffersAt.rel_lastGiven?`: the last values of members that differ
* `EditedAt.lastGiven?_eq`: edits at a key leave the last values of all others
* `rel_agree_lastGiven?`: members that come to the same do so under each key
-/

namespace CallMeter.Json

/-- **The last value given** for a key. -/
def lastGiven? (key : String) (given : List (String × Json)) : Option Json :=
  Entries.get? key given.reverse

/-- The members that are given by an object. -/
def membersGiven : Option Json → List (String × Json)
  | some (.object given) => given
  | _ => []

/-- **A value without what stands at a path** of keys: the members with the last key of the path
are left out. -/
def without : (path : List String) → Json → Json
  | [], v => v
  | key :: path, .object given => .object <|
    match path with
    | [] => given.filter fun e => e.1 ≠ key
    | _ :: _ => given.map fun e => (e.1, if e.1 = key then without path e.2 else e.2)
  | _ :: _, v => v

/-- **Values that differ at a path** at most are the same without what stands there. -/
def DiffersAt (path : List String) (v v' : Json) : Prop :=
  v.without path = v'.without path

/-- **Members that come from others by edits at a key**: the values of that key alone are others, or
members change places with those of other keys, or a value is given that a later one of its key
replaces. -/
inductive EditedAt (key : String) : List (String × Json) → List (String × Json) → Prop
  | changed {given given' : List (String × Json)}
      (h : DiffersAt [key] (.object given) (.object given')) : EditedAt key given given'
  | permuted {given given' : List (String × Json)}
      (h : ∀ k, given.filter (fun e => e.1 = k) = given'.filter fun e => e.1 = k) :
      EditedAt key given given'
  | repeated (before : List (String × Json)) {k : String} (v : Json)
      {after : List (String × Json)} (again : k ∈ after.map Prod.fst) :
      EditedAt key (before ++ after) (before ++ (k, v) :: after)
  | symm {given given' : List (String × Json)} (h : EditedAt key given given') :
      EditedAt key given' given
  | trans {given given' given'' : List (String × Json)} (h : EditedAt key given given')
      (h' : EditedAt key given' given'') : EditedAt key given given''

/-- **Values that come to the same**: in their objects the last values given for each key do,
whatever the order of the keys and the values before. -/
inductive Agree : Json → Json → Prop
  | refl (v : Json) : Agree v v
  | array {items items' : List Json} (h : List.Forall₂ Agree items items') :
      Agree (.array items) (.array items')
  | object {given given' : List (String × Json)}
      (h : ∀ key, Option.Rel Agree (lastGiven? key given) (lastGiven? key given')) :
      Agree (.object given) (.object given')

variable {given given' : List (String × Json)} {key : String} {v v' : Json}

/-- A text that is read as an object gives the members of one. -/
theorem exists_given {text : String} {members : List (String × Json)}
    (h : parse? text = some (.object members)) : ∃ given, Gives text (.object given) := by
  obtain ⟨v, gives, read⟩ := parse?_eq_some_iff.mp h
  cases v with
  | object given => exact ⟨given, gives⟩
  | _ => cases read

/-- The members of an object settled, in their last values. -/
theorem get?_settled (key : String) (given : List (String × Json)) :
    Entries.get? key (Entries.ofList (settledMembers given)) =
      (lastGiven? key given).map settled := by
  rw [Entries.get?_ofList, settledMembers_eq, ← List.map_reverse,
    Entries.get?_map (fun _ => settled), lastGiven?]

/-- **What takes arrays and objects for nothing** sees no difference in a value settled. -/
theorem apply_settled {α : Type} {f : Option Json → α}
    (array : ∀ items, f (some (.array items)) = f none)
    (object : ∀ members, f (some (.object members)) = f none) (v : Option Json) :
    f (v.map settled) = f v := by
  cases v with
  | none => rfl
  | some v =>
    cases v with
    | array items => exact (array _).trans (array _).symm
    | object members => exact (object _).trans (object _).symm
    | _ => rfl

theorem asText_settled (v : Option Json) : asText (v.map settled) = asText v :=
  apply_settled (fun _ => rfl) (fun _ => rfl) v

theorem asFlag_settled (v : Option Json) : asFlag (v.map settled) = asFlag v :=
  apply_settled (fun _ => rfl) (fun _ => rfl) v

theorem asDouble?_settled (v : Option Json) : asDouble? (v.map settled) = asDouble? v :=
  apply_settled (fun _ => rfl) (fun _ => rfl) v

theorem asCount_settled (v : Option Json) : asCount (v.map settled) = asCount v :=
  apply_settled (fun _ => rfl) (fun _ => rfl) v

/-- The last value of a key that is not left out. -/
theorem lastGiven?_filter {p : String → Bool} {k : String} (kept : p k = true)
    (given : List (String × Json)) :
    lastGiven? k (given.filter fun e => p e.1) = lastGiven? k given := by
  rw [lastGiven?, ← List.filter_reverse, Entries.get?_filter kept, lastGiven?]

theorem lastGiven?_append (k : String) (before after : List (String × Json)) :
    lastGiven? k (before ++ after) = (lastGiven? k after).or (lastGiven? k before) := by
  rw [lastGiven?, List.reverse_append, Entries.get?_append]
  rfl

theorem lastGiven?_cons (k : String) (e : String × Json) (after : List (String × Json)) :
    lastGiven? k (e :: after) = (lastGiven? k after).or (if e.1 = k then some e.2 else none) :=
  lastGiven?_append k [e] after

theorem lastGiven?_isSome_iff {k : String} :
    (lastGiven? k given).isSome ↔ k ∈ given.map Prod.fst := by
  rw [lastGiven?, Entries.get?_isSome_iff, List.map_reverse, List.mem_reverse]

theorem lastGiven?_map (f : Json → Json) (k key : String) (given : List (String × Json)) :
    lastGiven? k (given.map fun e => (e.1, if e.1 = key then f e.2 else e.2)) =
      (lastGiven? k given).map fun v => if k = key then f v else v := by
  rw [lastGiven?, ← List.map_reverse, lastGiven?]
  exact Entries.get?_map (fun name v => if name = key then f v else v) k _

namespace DiffersAt

variable {path : List String} {next : String}

/-- Only objects differ below a key. -/
theorem eq_or_objects (h : DiffersAt (key :: path) v v') :
    v = v' ∨ ∃ given given', v = .object given ∧ v' = .object given' := by
  cases v with
  | object given =>
    cases v' with
    | object given' => exact .inr ⟨given, given', rfl, rfl⟩
    | _ => cases h
  | _ =>
    cases v' with
    | object given' => cases h
    | _ => exact .inl h

/-- What is given for another key is the same. -/
theorem lastGiven?_eq (h : DiffersAt (key :: path) (.object given) (.object given')) {k : String}
    (other : k ≠ key) : lastGiven? k given = lastGiven? k given' := by
  have same := congrArg (lastGiven? k) (Json.object.inj h)
  cases path with
  | nil =>
    have kept (given : List (String × Json)) :
        lastGiven? k (given.filter fun e => e.1 ≠ key) = lastGiven? k given :=
      lastGiven?_filter (p := fun name => decide (name ≠ key)) (decide_eq_true other) given
    rwa [kept, kept] at same
  | cons next path =>
    dsimp only at same
    rw [lastGiven?_map, lastGiven?_map] at same
    simpa only [if_neg other, Option.map_id'] using same

section Members

variable (h : DiffersAt (key :: next :: path) (.object given) (.object given'))
include h

theorem map_fst_eq : given.map Prod.fst = given'.map Prod.fst := by
  have same := congrArg (List.map Prod.fst) (Json.object.inj h)
  simpa only [List.map_map, Function.comp_def] using same

/-- **What is given for the first key** of the path differs at the rest of it. -/
theorem rel_lastGiven? :
    Option.Rel (DiffersAt (next :: path)) (lastGiven? key given) (lastGiven? key given') := by
  have same := congrArg (lastGiven? key) (Json.object.inj h)
  dsimp only at same
  rw [lastGiven?_map, lastGiven?_map] at same
  simp only [if_pos] at same
  generalize lastGiven? key given = v at same ⊢
  generalize lastGiven? key given' = v' at same ⊢
  cases v with
  | none =>
    cases v' with
    | none => exact .none
    | some v' => cases same
  | some v =>
    cases v' with
    | none => cases same
    | some v' => exact .some (Option.some.inj same)

end Members

end DiffersAt

namespace EditedAt

/-- **Distinct keys** may change places as they like. -/
theorem of_perm (perm : given.Perm given') (once : (given.map Prod.fst).Nodup) :
    EditedAt key given given' := by
  have once' : (given'.map Prod.fst).Nodup := (perm.map Prod.fst).nodup_iff.mp once
  refine .permuted fun k => ?_
  refine (perm.filter _).eq_of_pairwise ?_ ((List.pairwise_map.mp once).filter _)
    ((List.pairwise_map.mp once').filter _)
  intro e e' he he' apart
  have hk : e.1 = k := by simpa using (List.mem_filter.mp he).2
  have hk' : e'.1 = k := by simpa using (List.mem_filter.mp he').2
  exact absurd (hk.trans hk'.symm) apart

/-- **Edits at a key** leave the last values of all others. -/
theorem lastGiven?_eq (h : EditedAt key given given') {k : String} (other : k ≠ key) :
    lastGiven? k given = lastGiven? k given' := by
  induction h with
  | changed h => exact h.lastGiven?_eq other
  | permuted h =>
    -- the order matters among the members of one key only
    have own (given : List (String × Json)) :
        lastGiven? k (given.filter fun e => e.1 = k) = lastGiven? k given :=
      lastGiven?_filter (p := fun name => decide (name = k)) (decide_eq_true rfl) given
    rw [← own, h k, own]
  | @repeated before k' v after again =>
    rw [lastGiven?_append, lastGiven?_append, lastGiven?_cons]
    by_cases same : k' = k
    · subst same
      obtain ⟨w, later⟩ := Option.isSome_iff_exists.mp (lastGiven?_isSome_iff.mpr again)
      rw [later]
      rfl
    · rw [if_neg same, Option.or_none]
  | symm h ih => exact ih.symm
  | trans h h' ih ih' => exact ih.trans ih'

end EditedAt

/-- The members of values that differ at a path differ there. -/
theorem differsAt_membersGiven {path : List String} {v v' : Option Json}
    (h : Option.Rel (DiffersAt (key :: path)) v v') :
    DiffersAt (key :: path) (.object (membersGiven v)) (.object (membersGiven v')) := by
  cases h with
  | none => rfl
  | some h =>
    rcases h.eq_or_objects with rfl | ⟨given, given', rfl, rfl⟩
    · rfl
    · exact h

theorem asDouble?_eq_of_agree {v v' : Option Json} (h : Option.Rel Agree v v') :
    asDouble? v = asDouble? v' := by
  cases h with
  | none => rfl
  | some h => cases h <;> rfl

theorem rel_agree_refl (v : Option Json) : Option.Rel Agree v v := by
  cases v with
  | none => exact .none
  | some v => exact .some (.refl v)

/-- The last values of members that come to the same do so too. -/
theorem rel_agree_lastGiven? {v v' : Option Json} (h : Option.Rel Agree v v') (key : String) :
    Option.Rel Agree (lastGiven? key (membersGiven v)) (lastGiven? key (membersGiven v')) := by
  cases h with
  | none => exact .none
  | some h =>
    cases h with
    | refl => exact rel_agree_refl _
    | array => exact .none
    | object h => exact h key

end CallMeter.Json
