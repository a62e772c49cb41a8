/-!
# Entries

A list of keys and values with each key once, in the order in which the keys came. A value put
under a known key takes the place of the earlier one.

## Main definitions

* `Entries.put`, `Entries.get?`: an entry added or replaced, and the value under a key
* `Entries.putNew`: an entry added where there is none
* `Entries.ofList`: the entries of a list, the last value for each key

## Main results

* `get?_put`: the value put last under a key is the one found
* `get?_putNew`: a value put where there is none replaces nothing
* `mem_keys_put`, `nodup_keys_put`: the keys after a value is put
* `perm_of_get?`, `get?_perm`: entries with the same value under each key are the same up to order
* `get?_filterMap_keys`, `get?_map_keys`: the value under a key in a list made from keys
* `ofList_of_nodup`: a list with each key once is the list of its entries
* `get?_ofList_perm`: the order of such a list does not matter
* `get?_ofList`, `keys_ofList`: the last value given for a key, where the key was given first
-/

namespace CallMeter.Entries

variable {κ α : Type} [DecidableEq κ]

/-- The entries with `value` under `key`: in place of an earlier value, or at the end. -/
def put (key : κ) (value : α) : List (κ × α) → List (κ × α)
  | [] => [(key, value)]
  | (k, v) :: r => if k = key then (k, value) :: r else (k, v) :: put key value r

/-- The value under a key. -/
def get? (key : κ) : List (κ × α) → Option α
  | [] => none
  | (k, v) :: r => if k = key then some v else get? key r

/-- The entries with `value` under `key`, unless there is one already. -/
def putNew (key : κ) (value : α) (entries : List (κ × α)) : List (κ × α) :=
  if (get? key entries).isSome then entries else put key value entries

/-- The entries of a list, with the last value for each key. -/
def ofList (pairs : List (κ × α)) : List (κ × α) :=
  pairs.foldl (fun entries p => put p.1 p.2 entries) []

@[simp] theorem get?_nil (key : κ) : get? key ([] : List (κ × α)) = none := rfl

theorem get?_put (key other : κ) (value : α) (entries : List (κ × α)) :
    get? other (put key value entries) =
      if key = other then some value else get? other entries := by
  induction entries with
  | nil => simp [put, get?]
  | cons e r ih => grind [put, get?]

@[simp] theorem mem_keys_put (key other : κ) (value : α) (entries : List (κ × α)) :
    other ∈ (put key value entries).map Prod.fst ↔ other = key ∨ other ∈ entries.map Prod.fst := by
  induction entries with
  | nil => simp [put]
  | cons e r ih => grind [put]

theorem nodup_keys_put (key : κ) (value : α) {entries : List (κ × α)}
    (h : (entries.map Prod.fst).Nodup) : ((put key value entries).map Prod.fst).Nodup := by
  induction entries with
  | nil => simp [put]
  | cons e r ih =>
    rw [List.map_cons, List.nodup_cons] at h
    by_cases he : e.1 = key
    · rw [put, if_pos he]; exact List.nodup_cons.mpr h
    · rw [put, if_neg he, List.map_cons, List.nodup_cons, mem_keys_put]
      exact ⟨fun hm => hm.elim he h.1, ih h.2⟩

theorem get?_putNew (key other : κ) (value : α) (entries : List (κ × α)) :
    get? other (putNew key value entries) =
      (get? other entries).or (if key = other then some value else none) := by
  by_cases same : key = other
  · subst same
    cases h : get? key entries <;> simp [putNew, h, get?_put]
  · rw [putNew, if_neg same, Option.or_none]
    split
    · rfl
    · rw [get?_put, if_neg same]

theorem nodup_keys_putNew (key : κ) (value : α) {entries : List (κ × α)}
    (h : (entries.map Prod.fst).Nodup) : ((putNew key value entries).map Prod.fst).Nodup := by
  rw [putNew]
  split
  · exact h
  · exact nodup_keys_put key value h

theorem mem_iff_get? {entries : List (κ × α)} (h : (entries.map Prod.fst).Nodup) (key : κ)
    (value : α) : (key, value) ∈ entries ↔ get? key entries = some value := by
  induction entries with
  | nil => simp
  | cons e r ih =>
    rw [List.map_cons, List.nodup_cons] at h
    by_cases he : e.1 = key
    · have new : (key, value) ∉ r := fun hm => h.1 (he ▸ List.mem_map.mpr ⟨_, hm, rfl⟩)
      rw [get?, if_pos he, List.mem_cons, or_iff_left new, Option.some.injEq]
      exact ⟨fun e' => e' ▸ rfl, fun e' => Prod.ext he.symm e'.symm⟩
    · have other : (key, value) ≠ e := fun e' => he (e' ▸ rfl)
      rw [get?, if_neg he, List.mem_cons, or_iff_right other, ih h.2]

theorem get?_isSome_iff {key : κ} {entries : List (κ × α)} :
    (get? key entries).isSome ↔ key ∈ entries.map Prod.fst := by
  induction entries with
  | nil => simp
  | cons e r ih =>
    by_cases he : e.1 = key
    · simp [get?, he]
    · simp [get?, he, Ne.symm he, ih]

theorem mem_keys_of_get? {key : κ} {value : α} {entries : List (κ × α)}
    (h : get? key entries = some value) : key ∈ entries.map Prod.fst :=
  get?_isSome_iff.mp (Option.isSome_of_eq_some h)

/-- Entries are made from their keys. -/
theorem filterMap_keys {entries : List (κ × α)} (h : (entries.map Prod.fst).Nodup) :
    ((entries.map Prod.fst).filterMap fun k => (get? k entries).map fun v => (k, v)) =
      entries := by
  have go (r : List (κ × α)) (found : ∀ e ∈ r, get? e.1 entries = some e.2) :
      ((r.map Prod.fst).filterMap fun k => (get? k entries).map fun v => (k, v)) = r := by
    induction r with
    | nil => rfl
    | cons e r ih =>
      obtain ⟨first, rest⟩ := List.forall_mem_cons.mp found
      rw [List.map_cons, List.filterMap_cons_some (by rw [first]; rfl), ih rest]
  exact go entries fun e he => (mem_iff_get? h e.1 e.2).mp he

/-- **Entries are what they hold** under each key, up to their order. -/
theorem perm_of_get? {entries others : List (κ × α)} (h : (entries.map Prod.fst).Nodup)
    (ho : (others.map Prod.fst).Nodup) (same : ∀ key, get? key entries = get? key others) :
    entries.Perm others := by
  have once {es : List (κ × α)} (hs : (es.map Prod.fst).Nodup) : es.Nodup :=
    (List.pairwise_map.mp hs).imp fun hne e => hne (congrArg Prod.fst e)
  refine (List.perm_ext_iff_of_nodup (once h) (once ho)).mpr ?_
  rintro ⟨key, value⟩
  rw [mem_iff_get? h, mem_iff_get? ho, same key]

/-- The order of entries does not matter. -/
theorem get?_perm {entries others : List (κ × α)} (h : (entries.map Prod.fst).Nodup)
    (perm : entries.Perm others) (key : κ) : get? key entries = get? key others := by
  have ho : (others.map Prod.fst).Nodup := (perm.map Prod.fst).nodup_iff.mp h
  apply Option.ext
  intro value
  rw [← mem_iff_get? h, ← mem_iff_get? ho, perm.mem_iff]

/-- The value under a key in a list that has one for some of its keys. -/
theorem get?_filterMap_keys (find : κ → Option α) (key : κ) (keys : List κ) :
    get? key (keys.filterMap fun k => (find k).map fun v => (k, v)) =
      if key ∈ keys then find key else none := by
  induction keys with
  | nil => rfl
  | cons k r ih =>
    cases hf : find k with
    | none =>
      rw [List.filterMap_cons_none (by rw [hf]; rfl), ih]
      by_cases hk : key = k
      · rw [hk, hf, ite_self, ite_self]
      · simp only [List.mem_cons, hk, false_or]
    | some v =>
      rw [List.filterMap_cons_some (b := (k, v)) (by rw [hf]; rfl), get?, ih]
      by_cases hk : key = k
      · rw [if_pos hk.symm, if_pos (hk ▸ List.mem_cons_self), hk, hf]
      · rw [if_neg (Ne.symm hk)]
        simp only [List.mem_cons, hk, false_or]

omit [DecidableEq κ] in
theorem nodup_filterMap_keys (find : κ → Option α) {keys : List κ} (h : keys.Nodup) :
    ((keys.filterMap fun k => (find k).map fun v => (k, v)).map Prod.fst).Nodup := by
  have found : (keys.filterMap fun k => (find k).map fun v => (k, v)).map Prod.fst =
      keys.filter fun k => (find k).isSome := by
    clear h
    induction keys with
    | nil => rfl
    | cons k r ih =>
      cases hf : find k with
      | none =>
        rw [List.filterMap_cons_none (by rw [hf]; rfl), List.filter_cons_of_neg (by simp [hf]), ih]
      | some v =>
        rw [List.filterMap_cons_some (b := (k, v)) (by rw [hf]; rfl),
          List.filter_cons_of_pos (by simp [hf]), List.map_cons, ih]
  rw [found]
  exact List.Pairwise.filter _ h

theorem get?_map_keys (f : κ → α) (key : κ) (keys : List κ) :
    get? key (keys.map fun k => (k, f k)) = if key ∈ keys then some (f key) else none := by
  rw [← List.filterMap_eq_map']
  exact get?_filterMap_keys (fun k => some (f k)) key keys

theorem put_of_not_mem {key : κ} {entries : List (κ × α)} (h : key ∉ entries.map Prod.fst)
    (value : α) : put key value entries = entries ++ [(key, value)] := by
  induction entries with
  | nil => rfl
  | cons e r ih =>
    rw [List.map_cons, List.mem_cons, not_or] at h
    rw [put, if_neg (Ne.symm h.1), ih h.2, List.cons_append]

/-- **Distinct keys** replace nothing. -/
theorem ofList_of_nodup {pairs : List (κ × α)} (h : (pairs.map Prod.fst).Nodup) :
    ofList pairs = pairs := by
  -- the entries so far and the pairs to come have no key in common
  have go (pairs entries : List (κ × α)) (h : ((entries ++ pairs).map Prod.fst).Nodup) :
      pairs.foldl (fun es p => put p.1 p.2 es) entries = entries ++ pairs := by
    induction pairs generalizing entries with
    | nil => exact (List.append_nil _).symm
    | cons p r ih =>
      rw [← List.singleton_append, ← List.append_assoc] at h
      have new : p.1 ∉ entries.map Prod.fst := by
        intro hp
        rw [List.map_append, List.map_append, List.append_assoc, List.nodup_append] at h
        exact h.2.2 _ hp _ (List.mem_append_left _ List.mem_cons_self) rfl
      rw [List.foldl_cons, put_of_not_mem new, ih _ h, List.append_assoc, List.singleton_append]
  exact go pairs [] h

/-- The order of pairs with distinct keys does not matter. -/
theorem get?_ofList_perm {pairs others : List (κ × α)} (h : (pairs.map Prod.fst).Nodup)
    (perm : pairs.Perm others) (key : κ) : get? key (ofList pairs) = get? key (ofList others) := by
  have ho : (others.map Prod.fst).Nodup := (perm.map Prod.fst).nodup_iff.mp h
  rw [ofList_of_nodup h, ofList_of_nodup ho]
  exact get?_perm h perm key

theorem get?_append (key : κ) (entries others : List (κ × α)) :
    get? key (entries ++ others) = (get? key entries).or (get? key others) := by
  induction entries with
  | nil => rfl
  | cons e r ih =>
    rw [List.cons_append, get?, get?]
    split
    · rfl
    · exact ih

/-- The value under a key where each value is changed on its own. -/
theorem get?_map {β : Type} (f : κ → α → β) (key : κ) (entries : List (κ × α)) :
    get? key (entries.map fun e => (e.1, f e.1 e.2)) = (get? key entries).map (f key) := by
  induction entries with
  | nil => rfl
  | cons e r ih =>
    rw [List.map_cons, get?, get?]
    split
    next same => rw [Option.map_some, same]
    next => exact ih

/-- The value under a key that is not left out. -/
theorem get?_filter {p : κ → Bool} {key : κ} (kept : p key = true) (entries : List (κ × α)) :
    get? key (entries.filter fun e => p e.1) = get? key entries := by
  induction entries with
  | nil => rfl
  | cons e r ih =>
    by_cases he : e.1 = key
    · rw [List.filter_cons_of_pos (by rw [he]; exact kept), get?, get?, if_pos he, if_pos he]
    · rw [get?, if_neg he, ← ih, List.filter_cons]
      split
      · rw [get?, if_neg he]
      · rfl

theorem eq_or_mem_of_mem_put {key : κ} {value : α} {e : κ × α} {entries : List (κ × α)}
    (h : e ∈ put key value entries) : e = (key, value) ∨ e ∈ entries := by
  induction entries with
  | nil => exact .inl (List.mem_singleton.mp h)
  | cons e' r ih =>
    by_cases same : e'.1 = key
    · rw [put, if_pos same, same, List.mem_cons] at h
      exact h.imp_right (List.mem_cons_of_mem _)
    · rw [put, if_neg same, List.mem_cons] at h
      rcases h with rfl | h
      · exact .inr List.mem_cons_self
      · exact (ih h).imp_right (List.mem_cons_of_mem _)

theorem keys_put (key : κ) (value : α) (entries : List (κ × α)) :
    (put key value entries).map Prod.fst =
      if key ∈ entries.map Prod.fst then entries.map Prod.fst
      else entries.map Prod.fst ++ [key] := by
  induction entries with
  | nil => rfl
  | cons e r ih => grind [put]

/-- What putting a pair keeps holds of the entries of a list. -/
theorem ofList_rec {P : List (κ × α) → Prop} {pairs : List (κ × α)} (nil : P [])
    (step : ∀ entries, P entries → ∀ p ∈ pairs, P (put p.1 p.2 entries)) : P (ofList pairs) :=
  List.foldlRecOn pairs (fun entries p => put p.1 p.2 entries) nil step

theorem forall_mem_ofList {P : κ × α → Prop} {pairs : List (κ × α)} (h : ∀ p ∈ pairs, P p) :
    ∀ e ∈ ofList pairs, P e := by
  refine ofList_rec (P := fun entries => ∀ e ∈ entries, P e) (List.forall_mem_nil _) ?_
  intro entries held p hp e he
  rcases eq_or_mem_of_mem_put he with rfl | he
  · exact h p hp
  · exact held e he

theorem nodup_keys_ofList (pairs : List (κ × α)) : ((ofList pairs).map Prod.fst).Nodup :=
  ofList_rec (P := fun entries => (entries.map Prod.fst).Nodup) List.nodup_nil
    fun _ held p _ => nodup_keys_put p.1 p.2 held

/-- **The value found** is the last one given for the key. -/
theorem get?_ofList (key : κ) (pairs : List (κ × α)) :
    get? key (ofList pairs) = get? key pairs.reverse := by
  -- what the entries so far hold is found if no pair to come has the key
  have go (entries : List (κ × α)) : get? key (pairs.foldl (fun es p => put p.1 p.2 es) entries) =
      (get? key pairs.reverse).or (get? key entries) := by
    induction pairs generalizing entries with
    | nil => rfl
    | cons p r ih =>
      rw [List.foldl_cons, ih, List.reverse_cons, get?_append, Option.or_assoc, get?_put, get?]
      congr 1
      split <;> rfl
  rw [ofList, go, get?_nil, Option.or_none]

/-- **The keys** are in the order in which they were given first. -/
theorem keys_ofList (pairs : List (κ × α)) :
    (ofList pairs).map Prod.fst = (pairs.map Prod.fst).eraseDups := by
  -- the keys of the entries so far come first, and are new no more
  have go (entries : List (κ × α)) :
      (pairs.foldl (fun es p => put p.1 p.2 es) entries).map Prod.fst = entries.map Prod.fst ++
        ((pairs.map Prod.fst).filter fun k => k ∉ entries.map Prod.fst).eraseDups := by
    induction pairs generalizing entries with
    | nil => exact (List.append_nil _).symm
    | cons p r ih =>
      rw [List.foldl_cons, ih, keys_put, List.map_cons]
      split
      next known => rw [List.filter_cons_of_neg (by simpa using known)]
      next new =>
        rw [List.filter_cons_of_pos (by simpa using new), List.eraseDups_cons, List.filter_filter,
          List.append_assoc, List.singleton_append]
        congr 3
        refine List.filter_congr fun k _ => Bool.eq_iff_iff.mpr ?_
        simp [and_comm]
  rw [ofList, go, List.map_nil, List.nil_append, List.filter_eq_self.mpr (by simp)]

end CallMeter.Entries
