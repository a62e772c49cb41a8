import CallMeter.Proofs.Store.Logged
import CallMeter.Proofs.Store.Seeding
import Mathlib.Algebra.Order.Floor.Div

/-!
# Profiles batch by batch

The profiles of a request are read in batches that the store accepts. Each id is asked for once,
in one of them, and there are as few as a full batch after the other allows. The deployments that
they find can be told apart by their use cases, so it does not matter in which order the batches
are answered, nor in which order their answers are joined.

## Main definitions

* `ExactProfiles`: each id of a request with the profile that its deployment gives
* `CutIntoBatches`: the ids of a request, each in one batch that fits
* `ResolvesExactly`: a store gives exact profiles, however the batches and the ids are ordered

## Main results

* `cutIntoBatches_batches`: the batches of a request
* `batches_readBatches`: a log shows every batch that is read
* `resolvesExactly_of_filed`: a store whose deployments are filed gives exact profiles
* `profiles_resolved_exactly`: both kinds of stores do, and the same ones
-/

namespace CallMeter

/-! ## The batches of a request -/

theorem length_piecesOf {α : Type} (size : Nat) (l : List α) :
    (piecesOf size l).length = l.length ⌈/⌉ size := by
  rw [piecesOf, List.length_map, List.length_range, Nat.ceilDiv_eq_add_pred_div]

theorem length_pos_of_mem_piecesOf {α : Type} {size : Nat} (h : 0 < size) {l piece : List α}
    (hp : piece ∈ piecesOf size l) : 0 < piece.length := by
  obtain ⟨i, hi, rfl⟩ := List.mem_map.mp hp
  have before : i * size < l.length := by
    have upper := Nat.mul_le_of_le_div size (i + 1) (l.length + size - 1) (List.mem_range.mp hi)
    rw [Nat.succ_mul] at upper
    omega
  rw [List.length_take, List.length_drop]
  omega

/-- The ids of a request, each once. -/
theorem length_sortedUnique (ss : List String) :
    (Text.sortedUnique ss).length = ss.dedup.length := by
  have perm : (Text.sortedUnique ss).Perm ss.dedup := by
    refine (List.perm_ext_iff_of_nodup ?_ ss.nodup_dedup).mpr fun x => ?_
    · exact (Text.ascending_sortedUnique ss).imp ne_of_lt
    · rw [Text.mem_sortedUnique, List.mem_dedup]
  exact perm.length_eq

/-- **Ids cut into batches**: each batch has from one to a hundred ids, each non-empty id of the
request is in one of them, once, and there are no more batches than it takes. -/
structure CutIntoBatches (ids : List String) (asked : List (List String)) : Prop where
  size : ∀ batch ∈ asked, 1 ≤ batch.length ∧ batch.length ≤ 100
  once : ∀ id ∈ ids, id ≠ "" → asked.flatten.count id = 1
  only : ∀ id ∈ asked.flatten, id ∈ ids ∧ id ≠ ""
  number : asked.length = (ids.filter fun id => id ≠ "").dedup.length ⌈/⌉ 100

/-- **The batches of a request** are its ids cut into batches. -/
theorem cutIntoBatches_batches (ids : List String) : CutIntoBatches ids (batches ids) where
  size batch hb := ⟨length_pos_of_mem_piecesOf (by decide) hb, (mem_batches hb).1⟩
  once id hid hne := by
    rw [(nodup_flatten_batches ids).count, if_pos (mem_flatten_batches.mpr ⟨hid, hne⟩)]
  only id hid := mem_flatten_batches.mp hid
  number := by
    have nonempty : (ids.filter fun id => !id.isEmpty) = ids.filter fun id => id ≠ "" :=
      List.filter_congr fun id _ => by rw [Bool.eq_iff_iff]; simp
    rw [batches, length_piecesOf, length_sortedUnique, nonempty]
    rfl

/-! ## What is asked of a store -/

section Log

variable {σ : Type} [CallStore σ]

/-- **A log shows every batch** that is read, as long as none fails. -/
theorem batches_readBatches (tenant : String) {asked : List (List String)} {l : Logged σ}
    {found : List Deployment} {s : σ}
    (read : readBatches tenant asked l.store = (.ok found, s)) :
    (readBatches tenant asked l).2.batches = l.batches ++ asked := by
  induction asked generalizing l found s with
  | nil => exact (List.append_nil _).symm
  | cons ids rest ih =>
    have first : CallStore.batch l tenant ids = ((CallStore.batch l.store tenant ids).1,
      ⟨(CallStore.batch l.store tenant ids).2, l.pages, l.batches ++ [ids]⟩) := rfl
    rw [readBatches] at read ⊢
    rw [first]
    generalize CallStore.batch l.store tenant ids = answer at read
    obtain ⟨fault | ds, s'⟩ := answer
    · cases read
    · dsimp only at read ⊢
      generalize later : readBatches tenant rest s' = more at read
      obtain ⟨fault | ds', s''⟩ := more
      · cases read
      · rw [ih (l := ⟨s', l.pages, l.batches ++ [ids]⟩) later, List.append_assoc,
          List.singleton_append]

end Log

/-! ## The profiles that are joined -/

/-- **Exact profiles**: each non-empty id of a request once, with the profile that its deployment
gives, or else with that of an unknown use case. -/
structure ExactProfiles (find : String → Option Deployment) (ids : List String)
    (profiles : List (String × Profile)) : Prop where
  once : (profiles.map Prod.fst).Nodup
  keys : ∀ id, id ∈ profiles.map Prod.fst ↔ id ∈ ids ∧ id ≠ ""
  known : ∀ id ∈ ids, id ≠ "" → ∀ d, find id = some d →
    Entries.get? id profiles = some (.ofDeployment d)
  unknown : ∀ id ∈ ids, id ≠ "" → find id = none →
    Entries.get? id profiles = some (.unknown id)

section Found

variable {find : String → Option Deployment}
  (filed : ∀ id d, find id = some d → d.useCase = id) {keys : List String}
include filed

/-- Deployments found under different ids have different use cases. -/
theorem nodup_useCase_filterMap (h : keys.Nodup) :
    ((keys.filterMap find).map Deployment.useCase).Nodup := by
  have own : (keys.filterMap find).map Deployment.useCase =
      (keys.filterMap fun k => (find k).map fun v => (k, v)).map Prod.fst := by
    rw [List.map_filterMap, List.map_filterMap]
    refine List.filterMap_congr fun k _ => ?_
    cases hd : find k with
    | none => rfl
    | some d => rw [Option.map_some, Option.map_some, Option.map_some, filed k d hd]
  rw [own]
  exact Entries.nodup_filterMap_keys find h

/-- **They are exact.** -/
theorem exactProfiles_profilesFrom (ids : List String) :
    ExactProfiles find ids (profilesFrom find ids) := by
  have value {id : String} (hid : id ∈ ids) (hne : id ≠ "") :
      Entries.get? id (profilesFrom find ids) =
        some (((find id).map .ofDeployment).getD (.unknown id)) := by
    rw [profilesFrom_of_filed filed, Entries.get?_map_keys,
      if_pos (mem_flatten_batches.mpr ⟨hid, hne⟩), profileOf, if_neg (by simpa using hne)]
  have keys : (profilesFrom find ids).map Prod.fst = (batches ids).flatten := by
    rw [profilesFrom_of_filed filed, List.map_map]
    exact List.map_id _
  constructor
  · rw [keys]
    exact nodup_flatten_batches ids
  · intro id
    rw [keys, mem_flatten_batches]
  · intro id hid hne d hd
    rw [value hid hne, hd]
    rfl
  · intro id hid hne hd
    rw [value hid hne, hd]
    rfl

end Found

/-! ## A store that resolves exactly -/

section Resolved

variable {σ : Type} [CallStore σ]

/-- **A store resolves some ids exactly**: it never fails and gives exact profiles, it is asked for
the ids cut into batches, and neither the order and number of the ids nor the order in which the
batches are read and joined changes what it gives. -/
structure ResolvesExactly (s : σ) (find : String → Option Deployment) (tenant : String)
    (ids : List String) (profiles : List (String × Profile)) : Prop where
  answer : (resolveProfiles s tenant ids).1 = .ok profiles
  exact : ExactProfiles find ids profiles
  /-- The batches are those that a log of the reads shows. -/
  asked : CutIntoBatches ids (resolveProfiles (Logged.ofStore s) tenant ids).2.batches
  sameIds : ∀ ids', (∀ id, id ∈ ids' ↔ id ∈ ids) →
    (resolveProfiles s tenant ids').1 = .ok profiles
  anyOrder : ∀ order, order.Perm (resolveProfiles (Logged.ofStore s) tenant ids).2.batches →
    ∃ found s', readBatches tenant order s = (.ok found, s') ∧
      ∀ joined, joined.Perm found → joinedProfiles ids joined = profiles

variable [HoldsDeployments σ]

open HoldsDeployments (deployments)

/-- **A store whose deployments are filed resolves exactly.** -/
theorem resolvesExactly_of_filed {s : σ} (filed : (deployments s).Filed) (tenant : String)
    (ids : List String) :
    ResolvesExactly s (fun id => (deployments s).find? tenant id) tenant ids
      (profilesFrom (fun id => (deployments s).find? tenant id) ids) := by
  have own := filed tenant
  have read {order : List (List String)} (h : order.Perm (batches ids)) :
      ∃ s', readBatches tenant order s =
          (.ok (order.flatten.filterMap fun id => (deployments s).find? tenant id), s') ∧
        deployments s' = deployments s :=
    readBatches_eq tenant (fun batch hb => mem_batches (h.mem_iff.mp hb)) s
  obtain ⟨s₁, inTurn, -⟩ := read .rfl
  have log : (resolveProfiles (Logged.ofStore s) tenant ids).2.batches = batches ids :=
    batches_readBatches (l := Logged.ofStore s) tenant inTurn
  constructor
  · rw [resolveProfiles, inTurn]
    rfl
  · exact exactProfiles_profilesFrom own ids
  · rw [log]
    exact cutIntoBatches_batches ids
  · intro ids' same
    obtain ⟨s₂, answered', -⟩ := resolveProfiles_eq s tenant ids'
    rw [answered', profilesFrom_congr _ same]
  · intro order h
    rw [log] at h
    obtain ⟨s₂, found, -⟩ := read h
    refine ⟨_, s₂, found, fun joined hj => ?_⟩
    have perm := hj.trans (h.flatten.filterMap fun id => (deployments s).find? tenant id)
    exact (joinedProfiles_perm perm.symm
      (nodup_useCase_filterMap own (nodup_flatten_batches ids))).symm

end Resolved

/-- **Both kinds of stores resolve exactly**: whatever deployments were added to them, they give
the same profiles for the ids of a request. -/
theorem profiles_resolved_exactly (seeds : List Seed) (tenant : String) (ids : List String) :
    ∃ profiles,
      (∀ s : MemoryStore, s.deployments = Seed.deployed seeds →
        ResolvesExactly s (fun id => (Seed.deployed seeds).find? tenant id) tenant ids profiles) ∧
      (∀ s : TableStore, s.deployments = Seed.deployed seeds →
        ResolvesExactly s (fun id => (Seed.deployed seeds).find? tenant id) tenant ids
          profiles) := by
  refine ⟨profilesFrom (fun id => (Seed.deployed seeds).find? tenant id) ids, ?_, ?_⟩
  · intro s hs
    have filed : s.deployments.Filed := hs ▸ Seed.filed_deployed seeds
    rw [← hs]
    exact resolvesExactly_of_filed filed tenant ids
  · intro s hs
    have filed : s.deployments.Filed := hs ▸ Seed.filed_deployed seeds
    rw [← hs]
    exact resolvesExactly_of_filed filed tenant ids

/-- A deployment looked up among two hundred and fifty unknown use cases and the empty id. -/
theorem profiles_resolved_exactly_of_many_ids :
    let seeds : List Seed := [.deployment "acme" ⟨"booking", some "Booking", none, some "m"⟩]
    let ids := "booking" :: "" :: (List.range 250).map Decimal.text
    let find (id : String) := (Seed.deployed seeds).find? "acme" id
    ∃ profiles, ResolvesExactly (MemoryStore.seeded 1 seeds) find "acme" ids profiles ∧
      ResolvesExactly (TableStore.seeded 9 seeds) find "acme" ids profiles := by
  intro seeds ids find
  obtain ⟨profiles, memory, table⟩ := profiles_resolved_exactly seeds "acme" ids
  exact ⟨profiles, memory _ (MemoryStore.deployments_seeded_memory 1 seeds),
    table _ (TableStore.deployments_seeded 9 seeds)⟩

end CallMeter
