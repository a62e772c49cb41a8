import CallMeter.Store.Memory
import CallMeter.Store.Profile
import CallMeter.Store.Table
import Mathlib.Data.String.Basic

/-!
# Profiles from deployments

The ids of a request are put in ascending order, each once, and read in batches. Both stores
answer such a batch with the deployments of its ids, so the profiles of a request are a function
of the deployments of the tenant and of the set of ids; neither the batches nor the order of the
ids can be seen in them.

## Main definitions

* `HoldsDeployments`: a store whose batch reads show its deployments
* `profilesFrom`: the profiles of some ids, given the deployment of each
* `Deployments.Filed`: deployments that stand under their own use cases
* `profileOf`: the profile of one use case, given the deployment of each

## Main results

* `sortedUnique_congr`: the sorted texts of a list depend on the set of its texts only
* `get?_joinedProfiles`: the profile of a use case among those that are joined
* `joinedProfiles_perm`: the order of the deployments found does not matter
* `readBatches_eq`: batches show the deployments of their ids
* `resolveProfiles_eq`: the profiles that a store gives
* `profilesFrom_of_filed`: the profiles of filed deployments, id by id
* `get?_profilesFrom`: the profile of a use case does not depend on the other ids
-/

namespace CallMeter

/-! ## Texts in ascending order -/

namespace Text

/-- Texts in strictly ascending order are determined by their set. -/
theorem eq_of_ascending {ss ts : List String} (hs : ss.Pairwise (· < ·)) (ht : ts.Pairwise (· < ·))
    (same : ∀ x, x ∈ ss ↔ x ∈ ts) : ss = ts := by
  have perm : ss.Perm ts :=
    (List.perm_ext_iff_of_nodup (hs.imp ne_of_lt) (ht.imp ne_of_lt)).mpr same
  exact perm.eq_of_pairwise (fun a b _ _ hab hba => absurd hab hba.asymm) hs ht

theorem ascending_insertUnique (s : String) {l : List String} (h : l.Pairwise (· < ·)) :
    (insertUnique s l).Pairwise (· < ·) := by
  induction l with
  | nil => exact List.pairwise_singleton _ _
  | cons t rest ih =>
    obtain ⟨ht, hrest⟩ := List.pairwise_cons.mp h
    unfold insertUnique
    split
    · next hlt =>
      refine List.pairwise_cons.mpr ⟨?_, h⟩
      intro x hx
      rcases List.mem_cons.mp hx with rfl | hx
      · exact hlt
      · exact hlt.trans (ht x hx)
    split
    · exact h
    · next hnot hne =>
      refine List.pairwise_cons.mpr ⟨?_, ih hrest⟩
      intro x hx
      rcases (mem_insertUnique s x rest).mp hx with rfl | hx
      · exact lt_of_le_of_ne (not_lt.mp hnot) (Ne.symm hne)
      · exact ht x hx

theorem ascending_sortedUnique (ss : List String) : (sortedUnique ss).Pairwise (· < ·) := by
  induction ss with
  | nil => exact List.Pairwise.nil
  | cons s rest ih => exact ascending_insertUnique s ih

theorem sortedUnique_congr {ss ts : List String} (same : ∀ x, x ∈ ss ↔ x ∈ ts) :
    sortedUnique ss = sortedUnique ts := by
  apply eq_of_ascending (ascending_sortedUnique ss) (ascending_sortedUnique ts)
  intro x
  rw [mem_sortedUnique, mem_sortedUnique, same x]

theorem sortedUnique_of_ascending {ss : List String} (h : ss.Pairwise (· < ·)) :
    sortedUnique ss = ss :=
  eq_of_ascending (ascending_sortedUnique ss) h fun x => mem_sortedUnique x ss

end Text

/-! ## Batches -/

theorem mem_piecesOf {α : Type} {size : Nat} {l piece : List α} (h : piece ∈ piecesOf size l) :
    piece.length ≤ size ∧ piece.Sublist l := by
  obtain ⟨i, -, rfl⟩ := List.mem_map.mp h
  exact ⟨List.length_take_le _ _, (List.take_sublist _ _).trans (List.drop_sublist _ _)⟩

/-- A batch fits and is in ascending order. -/
theorem mem_batches {ids batch : List String} (h : batch ∈ batches ids) :
    batch.length ≤ maxBatchKeys ∧ batch.Pairwise (· < ·) := by
  obtain ⟨fits, sub⟩ := mem_piecesOf h
  exact ⟨fits, (Text.ascending_sortedUnique _).sublist sub⟩

/-- **Stores that show their deployments**: a batch read of ids in ascending order, no more than
fit, gives the deployments of those that have one and changes no deployment. -/
class HoldsDeployments (σ : Type) [CallStore σ] where
  deployments : σ → Deployments
  batch_of_ascending (s : σ) (tenant : String) {ids : List String}
    (fits : ids.length ≤ maxBatchKeys) (ascending : ids.Pairwise (· < ·)) :
    ∃ s', CallStore.batch s tenant ids =
        (.ok (ids.filterMap fun id => (deployments s).find? tenant id), s') ∧
      deployments s' = deployments s

instance : HoldsDeployments MemoryStore where
  deployments := MemoryStore.deployments
  batch_of_ascending s _ ids fits _ :=
    ⟨{ s with batchSizes := s.batchSizes ++ [ids.length] }, if_neg (Nat.not_lt.mpr fits), rfl⟩

instance : HoldsDeployments TableStore where
  deployments := TableStore.deployments
  batch_of_ascending s tenant ids fits ascending := by
    refine ⟨s, ?_, rfl⟩
    show s.batch tenant ids = _
    rw [TableStore.batch, if_neg (Nat.not_lt.mpr fits), Text.sortedUnique_of_ascending ascending]

/-! ## The profiles that are joined -/

/-- Entries in strictly ascending order of their keys are determined by what they hold. -/
theorem Entries.eq_of_ascending {α : Type} {es others : List (String × α)}
    (h : (es.map Prod.fst).Pairwise (· < ·)) (ho : (others.map Prod.fst).Pairwise (· < ·))
    (same : ∀ key, get? key es = get? key others) : es = others := by
  have perm : es.Perm others := perm_of_get? (h.imp ne_of_lt) (ho.imp ne_of_lt) same
  refine perm.eq_of_pairwise (fun a b _ _ hab hba => absurd hab hba.asymm)
    (List.pairwise_map.mp h) (List.pairwise_map.mp ho)

/-- An id has its own profile, or else an unknown one if it is filled in. -/
theorem get?_fillIn (id : String) (ids : List String) (profiles : List (String × Profile)) :
    Entries.get? id (fillIn ids profiles) =
      (Entries.get? id profiles).or (if id ∈ ids then some (.unknown id) else none) := by
  unfold fillIn
  induction ids generalizing profiles with
  | nil => exact Option.or_none.symm
  | cons k r ih =>
    rw [List.foldl_cons, ih, Entries.get?_putNew, Option.or_assoc]
    by_cases same : k = id
    · rw [if_pos same, same, Option.some_or, if_pos List.mem_cons_self]
    · rw [if_neg same, Option.none_or]
      simp only [List.mem_cons, Ne.symm same, false_or]

theorem nodup_fillIn (ids : List String) {profiles : List (String × Profile)}
    (h : (profiles.map Prod.fst).Nodup) : ((fillIn ids profiles).map Prod.fst).Nodup :=
  List.foldlRecOn (motive := fun ps : List (String × Profile) => (ps.map Prod.fst).Nodup) ids _ h
    fun _ held _ _ => Entries.nodup_keys_putNew _ _ held

section Joined

variable (ids : List String) (found : List Deployment)

/-- **The profile of a use case** is that of its deployment, or else an unknown one if the request
has its id. -/
theorem get?_joinedProfiles (id : String) :
    Entries.get? id (joinedProfiles ids found) =
      (Entries.get? id (Entries.ofList (found.map fun d => (d.useCase, .ofDeployment d)))).or
        (if id ∈ (batches ids).flatten then some (.unknown id) else none) := by
  rw [← get?_fillIn]
  exact (Entries.get?_perm (nodup_fillIn _ (Entries.nodup_keys_ofList _))
    (List.mergeSort_perm _ _).symm id).symm

theorem ascending_joinedProfiles :
    ((joinedProfiles ids found).map Prod.fst).Pairwise (· < ·) := by
  have distinct : ((joinedProfiles ids found).map Prod.fst).Nodup :=
    ((List.mergeSort_perm _ _).map Prod.fst).nodup_iff.mpr
      (nodup_fillIn _ (Entries.nodup_keys_ofList _))
  have sorted : (joinedProfiles ids found).Pairwise fun p p' => decide (p.1 ≤ p'.1) = true :=
    List.pairwise_mergeSort
      (fun p p' p'' h h' => decide_eq_true ((of_decide_eq_true h).trans (of_decide_eq_true h')))
      (fun p p' => by simpa using le_total p.1 p'.1) _
  rw [List.pairwise_map]
  refine (sorted.and (List.pairwise_map.mp distinct)).imp fun both => ?_
  exact lt_of_le_of_ne (of_decide_eq_true both.1) both.2

variable {ids found}

/-- **The order of the deployments found** does not matter, if no two have one use case. -/
theorem joinedProfiles_perm {found' : List Deployment} (h : found.Perm found')
    (once : (found.map Deployment.useCase).Nodup) :
    joinedProfiles ids found = joinedProfiles ids found' := by
  have pairs := h.map fun d => (d.useCase, Profile.ofDeployment d)
  have keys : ((found.map fun d => (d.useCase, Profile.ofDeployment d)).map Prod.fst).Nodup := by
    rwa [List.map_map]
  refine Entries.eq_of_ascending (ascending_joinedProfiles _ _) (ascending_joinedProfiles _ _) ?_
  intro id
  rw [get?_joinedProfiles, get?_joinedProfiles, Entries.get?_ofList_perm keys pairs]

/-- The order and the number of the ids do not matter. -/
theorem flatten_batches_congr {ids' : List String} (same : ∀ id, id ∈ ids ↔ id ∈ ids') :
    (batches ids).flatten = (batches ids').flatten := by
  rw [flatten_batches, flatten_batches]
  apply Text.sortedUnique_congr
  intro x
  rw [List.mem_filter, List.mem_filter, same x]

end Joined

/-- **The profiles of some ids**, given the deployment of each. -/
def profilesFrom (find : String → Option Deployment) (ids : List String) :
    List (String × Profile) :=
  joinedProfiles ids ((batches ids).flatten.filterMap find)

theorem profilesFrom_congr (find : String → Option Deployment) {ids ids' : List String}
    (same : ∀ id, id ∈ ids ↔ id ∈ ids') : profilesFrom find ids = profilesFrom find ids' := by
  simp only [profilesFrom, joinedProfiles, flatten_batches_congr same]

/-! ## What a store gives -/

section HoldsDeployments

variable {σ : Type} [CallStore σ] [HoldsDeployments σ]

open HoldsDeployments (deployments batch_of_ascending)

/-- **Batches show the deployments** of all their ids, as one read would. -/
theorem readBatches_eq (tenant : String) {idss : List (List String)}
    (h : ∀ ids ∈ idss, ids.length ≤ maxBatchKeys ∧ ids.Pairwise (· < ·)) (s : σ) :
    ∃ s', readBatches tenant idss s =
        (.ok (idss.flatten.filterMap fun id => (deployments s).find? tenant id), s') ∧
      deployments s' = deployments s := by
  induction idss generalizing s with
  | nil => exact ⟨s, rfl, rfl⟩
  | cons ids rest ih =>
    obtain ⟨hids, hrest⟩ := List.forall_mem_cons.mp h
    obtain ⟨s₁, read, same⟩ := batch_of_ascending s tenant hids.1 hids.2
    obtain ⟨s₂, more, same₂⟩ := ih hrest s₁
    refine ⟨s₂, ?_, same₂.trans same⟩
    rw [readBatches, read]
    simp only [more, same, List.flatten_cons, List.filterMap_append]
    rfl

/-- **A store gives the profiles** that its deployments of the tenant say, and never fails. -/
theorem resolveProfiles_eq (s : σ) (tenant : String) (ids : List String) :
    ∃ s', resolveProfiles s tenant ids =
        (.ok (profilesFrom (fun id => (deployments s).find? tenant id) ids), s') ∧
      deployments s' = deployments s := by
  obtain ⟨s', read, same⟩ := readBatches_eq tenant (fun _ part => mem_batches part) s
  exact ⟨s', by rw [resolveProfiles, read]; rfl, same⟩

end HoldsDeployments

/-! ## The profile of one use case -/

theorem Deployments.find?_add (ds : Deployments) (tenant : String) (d : Deployment)
    (owner id : String) :
    (ds.add tenant d).find? owner id =
      if (tenant, d.useCase) = (owner, id) then some d else ds.find? owner id :=
  Entries.get?_put _ _ _ _

/-- **Filed deployments**: every deployment stands under its own use case. -/
def Deployments.Filed (ds : Deployments) : Prop :=
  ∀ tenant id d, ds.find? tenant id = some d → d.useCase = id

theorem Deployments.filed_nil : Deployments.Filed [] := by
  intro tenant id d h
  cases h

/-- Adding a deployment files it. -/
theorem Deployments.Filed.add {ds : Deployments} (h : ds.Filed) (tenant : String)
    (d : Deployment) : (ds.add tenant d).Filed := by
  intro owner id d' hd
  rw [find?_add] at hd
  split at hd
  · next e =>
    obtain rfl := Option.some.inj hd
    exact (Prod.mk.inj e).2
  · exact h owner id d' hd

/-- **The profile of a use case**, given the deployment of each. An empty id has none. -/
def profileOf (find : String → Option Deployment) (id : String) : Profile :=
  if id.isEmpty then .unknown id else ((find id).map .ofDeployment).getD (.unknown id)

/-- The profiles of filed deployments stand under the ids at which they were found. -/
theorem profiles_of_filed {find : String → Option Deployment}
    (filed : ∀ id d, find id = some d → d.useCase = id) {keys : List String} (h : keys.Nodup) :
    Entries.ofList ((keys.filterMap find).map fun d => (d.useCase, Profile.ofDeployment d)) =
      keys.filterMap fun k => ((find k).map Profile.ofDeployment).map fun v => (k, v) := by
  have own : (keys.filterMap find).map (fun d => (d.useCase, Profile.ofDeployment d)) =
      keys.filterMap fun k => ((find k).map Profile.ofDeployment).map fun v => (k, v) := by
    rw [List.map_filterMap]
    apply List.filterMap_congr
    intro k _
    cases hd : find k with
    | none => rfl
    | some d => rw [Option.map_some, Option.map_some, Option.map_some, filed k d hd]
  rw [own, Entries.ofList_of_nodup (Entries.nodup_filterMap_keys _ h)]

theorem mem_flatten_batches {ids : List String} {id : String} :
    id ∈ (batches ids).flatten ↔ id ∈ ids ∧ id ≠ "" := by
  simp [flatten_batches]

theorem nodup_flatten_batches (ids : List String) : (batches ids).flatten.Nodup := by
  rw [flatten_batches]
  exact (Text.ascending_sortedUnique _).imp ne_of_lt

section Filed

variable {find : String → Option Deployment}
  (filed : ∀ id d, find id = some d → d.useCase = id)
include filed

/-- **The profiles of filed deployments**, id by id. -/
theorem profilesFrom_of_filed (ids : List String) :
    profilesFrom find ids = (batches ids).flatten.map fun id => (id, profileOf find id) := by
  refine Entries.eq_of_ascending (ascending_joinedProfiles _ _) ?_ fun id => ?_
  · rw [List.map_map, flatten_batches]
    exact (List.map_id _).symm ▸ Text.ascending_sortedUnique _
  · rw [profilesFrom, get?_joinedProfiles, profiles_of_filed filed (nodup_flatten_batches ids),
      Entries.get?_filterMap_keys, Entries.get?_map_keys]
    by_cases asked : id ∈ (batches ids).flatten
    · have nonempty : ¬ id.isEmpty = true := by simpa using (mem_flatten_batches.mp asked).2
      rw [if_pos asked, if_pos asked, if_pos asked, profileOf, if_neg nonempty]
      cases find id <;> rfl
    · rw [if_neg asked, if_neg asked, if_neg asked, Option.none_or]

/-- **The profile of a use case** does not depend on the other ids of a request. -/
theorem get?_profilesFrom {ids : List String} {id : String} (h : id ∈ ids) :
    (Entries.get? id (profilesFrom find ids)).getD (.unknown id) = profileOf find id := by
  rw [profilesFrom_of_filed filed, Entries.get?_map_keys]
  by_cases empty : id = ""
  · rw [if_neg fun asked => (mem_flatten_batches.mp asked).2 empty, profileOf,
      if_pos (String.isEmpty_iff.mpr empty)]
    rfl
  · rw [if_pos (mem_flatten_batches.mpr ⟨h, empty⟩), Option.getD_some]

end Filed

end CallMeter
