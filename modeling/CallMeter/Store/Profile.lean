import CallMeter.Store.Basic
import CallMeter.Text.Sorted

/-!
# Profiles of use cases

What the service shows about a use case: its name and the hint at its language model. A stored
deployment gives them where its texts are not blank; an unknown use case goes by its id. The
ids of a request are looked up in batches of at most a hundred, each id once, and what the batches
find is joined.

## Main definitions

* `Profile`, `Profile.ofDeployment`, `Profile.unknown`: the profile of a use case
* `batches`: the ids of a request in batches
* `fillIn`, `joinedProfiles`: what the batches find, and unknown profiles for all other ids
* `resolveProfiles`: the profiles of the ids of a request

## Main results

* `flatten_batches`: the batches hold all ids in order
-/

namespace CallMeter

/-- **Profile** of a use case. -/
structure Profile where
  useCase : String
  displayName : String
  modelHint : Option String
  deriving DecidableEq

/-- The profile of a use case without a deployment. -/
def Profile.unknown (useCase : String) : Profile :=
  ⟨useCase, useCase, none⟩

/-- The profile that a deployment gives. -/
def Profile.ofDeployment (d : Deployment) : Profile where
  useCase := d.useCase
  displayName := (firstPresent [d.displayName, some d.useCase]).getD ""
  modelHint := firstPresent [d.modelHint, d.modelId]

/-- A list in pieces of `size` elements, the last one shorter. -/
def piecesOf {α : Type} (size : Nat) (l : List α) : List (List α) :=
  (List.range ((l.length + size - 1) / size)).map fun i => (l.drop (i * size)).take size

/-- **Batches**: the non-empty ids of a request, each once, in pieces the store accepts. -/
def batches (ids : List String) : List (List String) :=
  piecesOf maxBatchKeys (Text.sortedUnique (ids.filter fun id => !id.isEmpty))

variable {σ : Type} [CallStore σ]

/-- The deployments of several batches. -/
def readBatches (tenant : String) :
    List (List String) → σ → Except StoreFault (List Deployment) × σ
  | [], s => (.ok [], s)
  | ids :: rest, s =>
    match CallStore.batch s tenant ids with
    | (.error fault, s) => (.error fault, s)
    | (.ok found, s) =>
      let (more, s) := readBatches tenant rest s
      (more.map (found ++ ·), s)

/-- Profiles, and an unknown one for each id that has none. -/
def fillIn (ids : List String) (profiles : List (String × Profile)) : List (String × Profile) :=
  ids.foldl (fun profiles id => Entries.putNew id (.unknown id) profiles) profiles

/-- **The profiles** of the deployments that the batches of a request found, with unknown ones for
the ids that have no deployment, in ascending order of the use cases. -/
def joinedProfiles (ids : List String) (found : List Deployment) : List (String × Profile) :=
  let known := Entries.ofList (found.map fun d => (d.useCase, Profile.ofDeployment d))
  (fillIn (batches ids).flatten known).mergeSort fun p p' => p.1 ≤ p'.1

/-- The profiles of the non-empty ids of a request. -/
def resolveProfiles (s : σ) (tenant : String) (ids : List String) :
    Except StoreFault (List (String × Profile)) × σ :=
  let (found, s) := readBatches tenant (batches ids) s
  (found.map (joinedProfiles ids), s)

theorem flatten_piecesOf {α : Type} (size : Nat) (h : 0 < size) (l : List α) :
    (piecesOf size l).flatten = l := by
  have cut : ∀ n : Nat, ((List.range n).map fun i => (l.drop (i * size)).take size).flatten =
      l.take (n * size) := by
    intro n
    induction n with
    | zero => simp
    | succ n ih =>
      rw [List.range_succ, List.map_append, List.flatten_append, ih, Nat.succ_mul, List.take_add]
      simp
  rw [piecesOf, cut, List.take_of_length_le]
  have e := Nat.div_add_mod (l.length + size - 1) size
  have m := Nat.mod_lt (l.length + size - 1) h
  rw [Nat.mul_comm] at e
  omega

theorem flatten_batches (ids : List String) :
    (batches ids).flatten = Text.sortedUnique (ids.filter fun id => !id.isEmpty) :=
  flatten_piecesOf _ (by decide) _

end CallMeter
