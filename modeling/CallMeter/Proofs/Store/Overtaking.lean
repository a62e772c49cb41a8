import CallMeter.Proofs.Store.Offset

/-!
# Memory scans amid writes

Items may be added between the page reads of a scan, and each page read sorts the items anew. An
item that starts later than an added one stands one place further back from then on, so an offset
that a scan has passed may come to point at it again. Items never move to the front, so none is
passed over: an item that was there before the scan comes out at least once, and once more at
most for each added item that overtook it.

## Main definitions

* `Placed`: an item with its place among all items of a store
* `MemoryStore.lineUp`: the items of a query in the order of a page read, with their places
* `MemoryStore.standing`: how many items of a query stand before one
* `MemoryStore.overtakes`: a write that moves an item one place back
* `MemoryStore.times`, `MemoryStore.overtakings`: how often a run takes an item, and how many of
  its writes overtake it
* `MemoryStore.OffsetRun`: a scan amid writes by its offsets

## Main results

* `pairwise_lineUp`: items stand in the order of start and place
* `standing_put`: a write moves an item back by one place at most
* `OffsetRun.times_bounds`: how often what is left of a run takes an item
* `OffsetRun.not_taken_of_passed`: what is left of a run comes back to an item only if a write
  overtakes it
* `scan_amid_adds`: what a scan amid writes returns
-/

namespace CallMeter

/-- **Placed item**: an item with its place among all items of a store. Items are added at the
end, so a place keeps its item. -/
structure Placed where
  item : Json
  place : Nat

/-- The order of a scan: by the start, equal starts by the place. -/
def Placed.before (a b : Placed) : Prop :=
  startText a.item < startText b.item ∨
    startText a.item = startText b.item ∧ a.place < b.place

instance (a b : Placed) : Decidable (a.before b) :=
  inferInstanceAs (Decidable (_ ∨ _))

namespace Placed

variable {a b : Placed}

theorem before_irrefl (a : Placed) : ¬ a.before a := by
  simp [before]

theorem before_asymm (h : a.before b) : ¬ b.before a := by
  rintro (hb | ⟨eb, hb⟩) <;> rcases h with ha | ⟨ea, ha⟩
  · exact lt_asymm ha hb
  · exact absurd (ea ▸ hb) (lt_irrefl _)
  · exact absurd (eb ▸ ha) (lt_irrefl _)
  · exact lt_asymm ha hb

end Placed

namespace MemoryStore

/-! ## Items in line -/

/-- The item of a query at a place. -/
def placed? (q : RecordQuery) (e : (String × Json) × Nat) : Option Placed :=
  if e.1.1 = q.tenant ∧ q.wants e.1.2 then some ⟨e.1.2, e.2⟩ else none

/-- The items of a query with their places, in the order in which they were added. -/
def placedItems (q : RecordQuery) (items : List (String × Json)) : List Placed :=
  items.zipIdx.filterMap (placed? q)

/-- **The items of a query in line**: in stable order of their starts, as a page read sees them. -/
def lineUp (q : RecordQuery) (items : List (String × Json)) : List Placed :=
  (placedItems q items).mergeSort fun a b => startText a.item ≤ startText b.item

variable {q : RecordQuery} {items : List (String × Json)}

theorem placed?_eq_some {e : (String × Json) × Nat} {a : Placed} :
    placed? q e = some a ↔ (e.1.1 = q.tenant ∧ q.wants e.1.2) ∧ ⟨e.1.2, e.2⟩ = a := by
  simp [placed?]

theorem mem_placedItems {a : Placed} :
    a ∈ placedItems q items ↔ items[a.place]? = some (q.tenant, a.item) ∧ q.wants a.item := by
  rw [placedItems, List.mem_filterMap]
  constructor
  · rintro ⟨⟨⟨tenant, item⟩, i⟩, he, ha⟩
    obtain ⟨⟨rfl, wanted⟩, rfl⟩ := placed?_eq_some.mp ha
    exact ⟨List.mk_mem_zipIdx_iff_getElem?.mp he, wanted⟩
  · rintro ⟨there, wanted⟩
    exact ⟨((q.tenant, a.item), a.place), List.mk_mem_zipIdx_iff_getElem?.mpr there,
      placed?_eq_some.mpr ⟨⟨rfl, wanted⟩, rfl⟩⟩

/-- A page read sees the items that it finds in a store. -/
theorem map_item_lineUp (q : RecordQuery) (items : List (String × Json)) :
    (lineUp q items).map Placed.item = found q items := by
  have kept : (placedItems q items).map Placed.item =
      (itemsOf q.tenant items).filter q.wants := by
    rw [placedItems, itemsOf, List.map_filterMap, List.filter_map, List.filter_filter,
      ← List.filterMap_eq_map', List.filterMap_filter]
    conv_rhs => rw [← List.zipIdx_map_fst 0 items, List.filterMap_map]
    apply List.filterMap_congr
    rintro ⟨⟨tenant, item⟩, i⟩ -
    by_cases wanted : tenant = q.tenant ∧ q.wants item
    · simp [placed?, wanted]
    · simp only [placed?, wanted, if_false, Option.map_none, Function.comp_apply]
      rw [if_neg (by simpa [and_comm] using wanted)]
  rw [lineUp, found, ← kept]
  exact List.map_mergeSort fun a _ b _ => rfl

/-- The places of the items of a query ascend. -/
theorem places_ascend (q : RecordQuery) (items : List (String × Json)) :
    (placedItems q items).Pairwise fun a b => a.place < b.place := by
  have ascend : items.zipIdx.Pairwise fun a b => a.2 < b.2 := by
    rw [← List.pairwise_map (f := Prod.snd) (R := (· < ·)), List.zipIdx_map_snd]
    exact List.pairwise_lt_range'
  refine ascend.filterMap (placed? q) ?_
  intro a b hab x hx y hy
  obtain ⟨-, rfl⟩ := placed?_eq_some.mp hx
  obtain ⟨-, rfl⟩ := placed?_eq_some.mp hy
  exact hab

theorem nodup_places (q : RecordQuery) (items : List (String × Json)) :
    ((lineUp q items).map Placed.place).Nodup := by
  have perm : ((lineUp q items).map Placed.place).Perm ((placedItems q items).map Placed.place) :=
    (List.mergeSort_perm _ _).map _
  rw [perm.nodup_iff]
  exact List.pairwise_map.mpr ((places_ascend q items).imp Nat.ne_of_lt)

/-- **Items stand in the order of start and place.** -/
theorem pairwise_lineUp (q : RecordQuery) (items : List (String × Json)) :
    (lineUp q items).Pairwise Placed.before := by
  have sorted : StableSorting (fun a : Placed => startText a.item) (placedItems q items)
      (lineUp q items) := stableSorting_mergeSort _ _
  refine List.pairwise_iff_forall_sublist.mpr ?_
  intro a b hab
  rcases (List.pairwise_iff_forall_sublist.mp sorted.ascending hab).lt_or_eq with earlier | same
  · exact .inl earlier
  have pair : [a, b].Sublist
      ((placedItems q items).filter fun x => startText x.item = startText a.item) := by
    rw [← sorted.stable]
    simpa [same] using hab.filter fun x => decide (startText x.item = startText a.item)
  have ascend := (places_ascend q items).filter fun x => startText x.item = startText a.item
  exact .inr ⟨same, List.pairwise_iff_forall_sublist.mp ascend pair⟩

/-! ## Where an item stands -/

/-- **Standing** of an item: how many items of the query stand before it. -/
def standing (q : RecordQuery) (items : List (String × Json)) (a : Placed) : Nat :=
  (placedItems q items).countP fun x => x.before a

variable {a : Placed}

/-- An item stands in line where its standing says. -/
theorem getElem?_lineUp_standing (ha : a ∈ placedItems q items) :
    (lineUp q items)[standing q items a]? = some a := by
  have perm : (lineUp q items).Perm (placedItems q items) := List.mergeSort_perm _ _
  obtain ⟨front, back, e⟩ := List.append_of_mem (perm.mem_iff.mpr ha)
  have order := pairwise_lineUp q items
  rw [e, List.pairwise_append, List.pairwise_cons] at order
  have all : front.countP (fun x => x.before a) = front.length :=
    List.countP_eq_length.mpr fun x hx => decide_eq_true (order.2.2 x hx a List.mem_cons_self)
  have none : back.countP (fun x => x.before a) = 0 :=
    List.countP_eq_zero.mpr fun x hx hb =>
      Placed.before_asymm (order.2.1.1 x hx) (of_decide_eq_true hb)
  have place : standing q items a = front.length := by
    rw [standing, ← perm.countP_eq, e, List.countP_append, List.countP_cons, all, none]
    simp [Placed.before_irrefl]
  rw [place, e, List.getElem?_append_right (Nat.le_refl _), Nat.sub_self]
  rfl

theorem standing_lt_length (ha : a ∈ placedItems q items) :
    standing q items a < (lineUp q items).length :=
  (List.getElem?_eq_some_iff.mp (getElem?_lineUp_standing ha)).1

/-- A slice of a list without duplicates holds the element at `k` once or not at all. -/
theorem count_slice_of_nodup {α : Type} [DecidableEq α] {l : List α} (h : l.Nodup) {k : Nat}
    {x : α} (hk : l[k]? = some x) (o n : Nat) :
    ((l.drop o).take n).count x = if o ≤ k ∧ k < o + n then 1 else 0 := by
  have sub : ((l.drop o).take n).Sublist l := (List.take_sublist _ _).trans (List.drop_sublist _ _)
  have mem : x ∈ (l.drop o).take n ↔ o ≤ k ∧ k < o + n := by
    rw [List.mem_iff_getElem?]
    constructor
    · rintro ⟨i, hi⟩
      obtain ⟨hin, hi⟩ := by simpa [List.getElem?_take, List.getElem?_drop] using hi
      obtain ⟨lk, ek⟩ := List.getElem?_eq_some_iff.mp hk
      obtain ⟨li, ei⟩ := List.getElem?_eq_some_iff.mp hi
      have same : o + i = k := h.getElem_inj_iff.mp (ei.trans ek.symm)
      omega
    · rintro ⟨low, high⟩
      refine ⟨k - o, ?_⟩
      rw [List.getElem?_take_of_lt (by omega), List.getElem?_drop, Nat.add_sub_of_le low, hk]
  by_cases hx : o ≤ k ∧ k < o + n
  · rw [if_pos hx]
    exact List.count_eq_one_of_mem (sub.nodup h) (mem.mpr hx)
  · rw [if_neg hx]
    exact List.count_eq_zero.mpr (mt mem.mp hx)

/-- **A page takes an item** once if its standing lies on the page, and else not at all. -/
theorem count_page (ha : a ∈ placedItems q items) (o n : Nat) :
    ((((lineUp q items).drop o).take n).map Placed.place).count a.place =
      if o ≤ standing q items a ∧ standing q items a < o + n then 1 else 0 := by
  rw [List.map_take, List.map_drop]
  refine count_slice_of_nodup (nodup_places q items) ?_ o n
  rw [List.getElem?_map, getElem?_lineUp_standing ha]
  rfl

/-! ## What a write moves -/

/-- A write **overtakes** an item: it adds an item of the query that starts earlier. -/
def overtakes (q : RecordQuery) (item : Json) (w : String × Json) : Bool :=
  w.1 = q.tenant && q.wants w.2 && startText w.2 < startText item

theorem placedItems_concat (q : RecordQuery) (items : List (String × Json)) (w : String × Json) :
    placedItems q (items ++ [w]) = placedItems q items ++ (placed? q (w, items.length)).toList := by
  rw [placedItems, List.zipIdx_append, List.filterMap_append, ← placedItems]
  rw [List.zipIdx_cons, List.zipIdx_nil, Nat.zero_add]
  rfl

/-- **An added item comes before an item** in line exactly if it starts earlier: of equal starts
the new one is last. -/
theorem standing_concat (ha : a ∈ placedItems q items) (w : String × Json) :
    standing q (items ++ [w]) a =
      standing q items a + if overtakes q a.item w then 1 else 0 := by
  have inside : a.place < items.length :=
    (List.getElem?_eq_some_iff.mp (mem_placedItems.mp ha).1).1
  rw [standing, placedItems_concat, List.countP_append, ← standing]
  congr 1
  by_cases wanted : w.1 = q.tenant ∧ q.wants w.2
  · have new : placed? q (w, items.length) = some ⟨w.2, items.length⟩ :=
      placed?_eq_some.mpr ⟨wanted, rfl⟩
    have order : Placed.before ⟨w.2, items.length⟩ a ↔ startText w.2 < startText a.item := by
      simp only [Placed.before]
      exact or_iff_left fun h => absurd h.2 (by omega)
    simp [new, order, overtakes, wanted]
  · have none : placed? q (w, items.length) = none := if_neg wanted
    have passed : overtakes q a.item w = false := by
      rw [overtakes, Bool.and_eq_false_iff]
      exact .inl (by simpa using wanted)
    simp [none, passed]

variable {s : MemoryStore}

/-- An item keeps its place for good. -/
theorem placedItems_mono {later : List (String × Json)} (grown : items <+: later)
    (ha : a ∈ placedItems q items) : a ∈ placedItems q later := by
  rw [mem_placedItems] at ha ⊢
  obtain ⟨more, rfl⟩ := grown
  refine ⟨?_, ha.2⟩
  rw [List.getElem?_append_left (List.getElem?_eq_some_iff.mp ha.1).1, ha.1]

/-- A write adds an item of a tenant. -/
def put (s : MemoryStore) (w : String × Json) : MemoryStore :=
  s.add w.1 w.2

theorem items_put (s : MemoryStore) (w : String × Json) :
    (s.put w).items = s.items ++ [w] ∨ (s.put w).items = s.items := by
  rw [put, add]
  split
  · exact .inl rfl
  · exact .inr rfl

theorem items_isPrefix_put (s : MemoryStore) (w : String × Json) :
    s.items <+: (s.put w).items := by
  rcases items_put s w with h | h
  · exact ⟨[w], h.symm⟩
  · exact ⟨[], by rw [List.append_nil, h]⟩

/-- **A write moves an item back** by one place at most, and only if it overtakes it. -/
theorem standing_put (ha : a ∈ placedItems q s.items) (w : String × Json) :
    standing q s.items a ≤ standing q (s.put w).items a ∧
      standing q (s.put w).items a ≤
        standing q s.items a + if overtakes q a.item w then 1 else 0 := by
  rcases items_put s w with h | h <;> rw [h]
  · rw [standing_concat ha]
    omega
  · omega

theorem failOnPage_put (s : MemoryStore) (w : String × Json) :
    (s.put w).failOnPage = s.failOnPage :=
  failOnPage_add s w.1 w.2

theorem pageSize_put (s : MemoryStore) (w : String × Json) :
    (s.put w).pageSize = s.pageSize := by
  rw [put, add]
  split <;> rfl

theorem matching_served (s : MemoryStore) (q : RecordQuery) (pages : Nat) :
    (s.served pages).matching q = s.matching q := rfl

/-! ## Scans amid writes -/

/-- An event of a scan amid writes, a write being an item that is added for a tenant. -/
abbrev Event := ScanEvent MemoryStore (String × Json)

/-- **The items that a page read takes.** -/
def selected (q : RecordQuery) : Event → List Placed
  | .read s c =>
    match offset c with
    | .ok o => ((lineUp q s.items).drop o).take s.pageSize
    | .error _ => []
  | .write _ => []

/-- **How often a run takes** the item at a place. -/
def times (q : RecordQuery) (es : List Event) (place : Nat) : Nat :=
  ((es.flatMap (selected q)).map Placed.place).count place

/-- **The writes of a run that overtake** an item. -/
def overtakings (q : RecordQuery) (item : Json) (es : List Event) : Nat :=
  es.countP fun
    | .write w => overtakes q item w
    | .read _ _ => false

/-- **A scan amid writes by its offsets**: after each page read it goes on a page further, until
a page reaches the end of the line. -/
inductive OffsetRun (q : RecordQuery) : MemoryStore → Nat → List Event → Prop
  | write {s : MemoryStore} {o : Nat} {w : String × Json} {es : List Event}
      (rest : OffsetRun q (s.put w) o es) : OffsetRun q s o (.write w :: es)
  | last {s : MemoryStore} {o : Nat} {c : Option String} (hc : offset c = .ok o)
      (hall : (lineUp q s.items).length ≤ o + s.pageSize) : OffsetRun q s o [.read s c]
  | more {s : MemoryStore} {o : Nat} {c : Option String} {es : List Event}
      (hc : offset c = .ok o) (rest : OffsetRun q (s.served 1) (o + s.pageSize) es) :
      OffsetRun q s o (.read s c :: es)

variable {o : Nat} {c : Option String} {es : List Event}

theorem selected_read (hc : offset c = .ok o) :
    selected q (.read s c) = ((lineUp q s.items).drop o).take s.pageSize := by
  simp only [selected, hc]

theorem times_cons (e : Event) (es : List Event) (place : Nat) :
    times q (e :: es) place =
      ((selected q e).map Placed.place).count place + times q es place := by
  rw [times, times, List.flatMap_cons, List.map_append, List.count_append]

/-- The records of a page are those of the items that it takes. -/
theorem map_ofItem_selected (hc : offset c = .ok o) :
    (selected q (.read s c)).map (fun a => CallRecord.ofItem? a.item) =
      ((((s.matching q).drop o).take s.pageSize).filterMap
        fun e => CallRecord.ofItem? e.2).map some := by
  have items : ((selected q (.read s c)).map Placed.item) =
      ((found q s.items).drop o).take s.pageSize := by
    rw [selected_read hc, List.map_take, List.map_drop, map_item_lineUp]
  have wanted : ∀ item ∈ (selected q (.read s c)).map Placed.item, q.wants item = true := by
    intro item hi
    rw [items] at hi
    exact wants_of_mem_found (List.mem_of_mem_drop (List.mem_of_mem_take hi))
  have decoded := map_ofItem_of_wants wanted
  rw [List.map_map] at decoded
  rw [matching_eq, ← List.map_drop, ← List.map_take, List.filterMap_map]
  exact decoded.trans (by rw [items]; rfl)

theorem length_lineUp (s : MemoryStore) (q : RecordQuery) :
    (lineUp q s.items).length = (s.matching q).length := by
  rw [matching_eq, List.length_map, ← map_item_lineUp, List.length_map]

/-- Every page read of a scan amid writes succeeds, and the scan returns a record for each item
that its reads take. -/
theorem offsetRun_of_scansAmid {r : Except StoreFault (List CallRecord)}
    (hf : s.failOnPage = none) (run : ScansAmid put q s c es r)
    (hc : offset c = .ok o) (fits : o + s.pageSize < UInt64.size) :
    OffsetRun q s o es ∧ ∃ records, r = .ok records ∧
      (es.flatMap (selected q)).map (fun a => CallRecord.ofItem? a.item) = records.map some := by
  induction run generalizing o with
  | write rest ih =>
    obtain ⟨run, records, hr, taken⟩ := ih (by rwa [failOnPage_put]) hc (by rwa [pageSize_put])
    exact ⟨.write run, records, hr, taken⟩
  | fault h =>
    rw [queryPage_of_offset hf hc fits] at h
    cases h
  | @last s s' c page h hn =>
    rw [queryPage_of_offset hf hc fits] at h
    obtain ⟨hpage, rfl⟩ := Prod.mk.inj h
    obtain rfl := Except.ok.inj hpage
    refine ⟨.last hc ?_, _, rfl, ?_⟩
    · rw [length_lineUp]
      by_contra more
      exact absurd hn (by rw [if_pos (Nat.lt_of_not_le more)]; exact Option.some_ne_none _)
    · rw [List.flatMap_singleton, map_ofItem_selected hc]
  | @more s s' c page next es r h hn rest ih =>
    rw [queryPage_of_offset hf hc fits] at h
    obtain ⟨hpage, rfl⟩ := Prod.mk.inj h
    obtain rfl := Except.ok.inj hpage
    have hmore : o + s.pageSize < (s.matching q).length := by
      by_contra last
      exact absurd hn (by rw [if_neg last]; exact (Option.some_ne_none _).symm)
    obtain rfl : Decimal.text (o + s.pageSize) = next := by
      rw [if_pos hmore] at hn
      exact Option.some.inj hn
    have inside := length_matching_lt s q
    have further : o + s.pageSize + (s.served 1).pageSize < UInt64.size := by
      simp only [itemLimit, UInt64.size, served] at inside ⊢
      omega
    obtain ⟨run, records, rfl, taken⟩ := ih hf (offset_text fits) further
    refine ⟨.more hc run, _, rfl, ?_⟩
    rw [List.flatMap_cons, List.map_append, map_ofItem_selected hc, taken, List.map_append]

/-! ## How often an item comes out -/

/-- **How often what is left of a run takes an item**: once if the item is still ahead, and once
more at most for each write that overtakes it. -/
theorem OffsetRun.times_bounds (run : OffsetRun q s o es) (ha : a ∈ placedItems q s.items) :
    (if o ≤ standing q s.items a then 1 else 0) ≤ times q es a.place ∧
      times q es a.place ≤
        (if o ≤ standing q s.items a then 1 else 0) + overtakings q a.item es := by
  induction run with
  | @write s o w es rest ih =>
    obtain ⟨least, most⟩ := ih (placedItems_mono (items_isPrefix_put s w) ha)
    obtain ⟨back, near⟩ := standing_put ha w
    have same : times q (.write w :: es) a.place = times q es a.place := by
      simp [times_cons, selected]
    have counted : overtakings q a.item (.write w :: es) =
        overtakings q a.item es + if overtakes q a.item w then 1 else 0 := List.countP_cons
    rw [same, counted]
    split_ifs at least most near ⊢ <;> omega
  | @last s o c hc hall =>
    have inside := standing_lt_length ha
    rw [times_cons, selected_read hc, count_page ha, times, List.flatMap_nil, List.map_nil,
      List.count_nil, overtakings]
    split_ifs <;> omega
  | @more s o c es hc rest ih =>
    obtain ⟨least, most⟩ := ih ha
    have same : overtakings q a.item (.read s c :: es) = overtakings q a.item es :=
      List.countP_cons_of_neg Bool.false_ne_true
    have kept : standing q (s.served 1).items a = standing q s.items a := rfl
    rw [times_cons, selected_read hc, count_page ha, same]
    rw [kept] at least most
    split_ifs at least most ⊢ <;> omega

/-- **What is left of a run does not come back to an item before its offset**, until a write
overtakes the item. -/
theorem OffsetRun.not_taken_of_passed (run : OffsetRun q s o es)
    (ha : a ∈ placedItems q s.items) (passed : standing q s.items a < o)
    {between later : List Event} {s' : MemoryStore} {c' : Option String}
    (hes : es = between ++ .read s' c' :: later)
    (hw : ∀ w, ScanEvent.write w ∈ between → overtakes q a.item w = false) :
    a.place ∉ (selected q (.read s' c')).map Placed.place := by
  have off {s : MemoryStore} {o : Nat} {c : Option String} (hc : offset c = .ok o)
      (ha : a ∈ placedItems q s.items) (passed : standing q s.items a < o) :
      a.place ∉ (selected q (.read s c)).map Placed.place := by
    rw [← List.count_eq_zero, selected_read hc, count_page ha, if_neg (by omega)]
  induction run generalizing between with
  | @write s o w es rest ih =>
    cases between with
    | nil => cases hes
    | cons e between =>
      obtain ⟨rfl, tail⟩ := List.cons.inj hes
      have near := (standing_put ha w).2
      rw [hw w List.mem_cons_self] at near
      exact ih (placedItems_mono (items_isPrefix_put s w) ha) (by simpa using near.trans_lt passed)
        tail fun v hv => hw v (List.mem_cons_of_mem _ hv)
  | @last s o c hc hall =>
    cases between with
    | nil =>
      cases hes
      exact off hc ha passed
    | cons e between => simp at hes
  | @more s o c es hc rest ih =>
    cases between with
    | nil =>
      cases hes
      exact off hc ha passed
    | cons e between =>
      obtain ⟨rfl, tail⟩ := List.cons.inj hes
      exact ih ha (Nat.lt_of_lt_of_le passed (Nat.le_add_right _ _)) tail
        fun v hv => hw v (List.mem_cons_of_mem _ hv)

/-- A page read in a run takes a slice of the line of a store that has only grown; what is left
of the run goes on behind that slice. -/
theorem OffsetRun.of_append (run : OffsetRun q s o es) {earlier later : List Event}
    {s' : MemoryStore} {c' : Option String} (hes : es = earlier ++ .read s' c' :: later) :
    s.items <+: s'.items ∧ ∃ o', offset c' = .ok o' ∧
      (later = [] ∨ OffsetRun q (s'.served 1) (o' + s'.pageSize) later) := by
  induction run generalizing earlier with
  | @write s o w es rest ih =>
    cases earlier with
    | nil => cases hes
    | cons e earlier =>
      obtain ⟨grown, rest⟩ := ih (List.cons.inj hes).2
      exact ⟨(items_isPrefix_put s w).trans grown, rest⟩
  | @last s o c hc hall =>
    cases earlier with
    | nil =>
      cases hes
      exact ⟨List.prefix_rfl, o, hc, .inl rfl⟩
    | cons e earlier => simp at hes
  | @more s o c es hc rest ih =>
    cases earlier with
    | nil =>
      cases hes
      exact ⟨List.prefix_rfl, o, hc, .inr rest⟩
    | cons e earlier => exact ih (List.cons.inj hes).2

theorem mem_placedItems_of_selected {a : Placed} (hc : offset c = .ok o)
    (h : a ∈ selected q (.read s c)) : a ∈ placedItems q s.items := by
  rw [selected_read hc] at h
  exact List.mem_mergeSort.mp (List.mem_of_mem_drop (List.mem_of_mem_take h))

/-- The items that a run takes from a place are the item that stood there before. -/
theorem OffsetRun.item_of_selected (run : OffsetRun q s o es) {place : Nat} {item : Json}
    (there : s.items[place]? = some (q.tenant, item)) {a : Placed}
    (h : a ∈ es.flatMap (selected q)) (hp : a.place = place) : a.item = item := by
  obtain ⟨e, he, h⟩ := List.mem_flatMap.mp h
  cases e with
  | write w => exact absurd h (List.not_mem_nil)
  | read s' c' =>
    obtain ⟨earlier, later, hes⟩ := List.append_of_mem he
    obtain ⟨⟨added, grown⟩, o', hc', -⟩ := run.of_append hes
    have now := (mem_placedItems.mp (mem_placedItems_of_selected hc' h)).1
    have old : s'.items[place]? = some (q.tenant, item) := by
      rw [← grown, List.getElem?_append_left (List.getElem?_eq_some_iff.mp there).1, there]
    rw [hp, old] at now
    exact (congrArg Prod.snd (Option.some.inj now)).symm

/-- **A scan of a memory store amid writes** succeeds where no page read is made to fail, with a
record for each item that its page reads take. An item that was there before and that the query
asks for comes out at least once, and at most once more for each write that overtakes it; it
never comes out twice of one page read, and of two page reads only if it was overtaken in
between. -/
theorem scan_amid_adds {r : Except StoreFault (List CallRecord)} (hf : s.failOnPage = none)
    (run : ScansAmid put q s none es r) :
    (∃ records, r = .ok records ∧
      (es.flatMap (selected q)).map (fun a => CallRecord.ofItem? a.item) = records.map some) ∧
    (∀ place item, s.items[place]? = some (q.tenant, item) → q.wants item = true →
      1 ≤ times q es place ∧ times q es place ≤ 1 + overtakings q item es ∧
      (∀ a ∈ es.flatMap (selected q), a.place = place → a.item = item) ∧
      ∀ earlier s₁ c₁ between s₂ c₂ later,
        es = earlier ++ .read s₁ c₁ :: (between ++ .read s₂ c₂ :: later) →
        place ∈ (selected q (.read s₁ c₁)).map Placed.place →
        place ∈ (selected q (.read s₂ c₂)).map Placed.place →
          ∃ w, ScanEvent.write w ∈ between ∧ overtakes q item w = true) ∧
    ∀ e ∈ es, ((selected q e).map Placed.place).Nodup := by
  have fits : 0 + s.pageSize < UInt64.size := by simpa using s.pageSize_lt
  obtain ⟨offsets, outcome⟩ := offsetRun_of_scansAmid hf run (o := 0) rfl fits
  refine ⟨outcome, ?_, ?_⟩
  · intro place item there wanted
    have ha : ⟨item, place⟩ ∈ placedItems q s.items := mem_placedItems.mpr ⟨there, wanted⟩
    obtain ⟨least, most⟩ := offsets.times_bounds ha
    rw [if_pos (Nat.zero_le _)] at least most
    refine ⟨least, most, fun a h hp => offsets.item_of_selected there h hp, ?_⟩
    intro earlier s₁ c₁ between s₂ c₂ later hes first second
    obtain ⟨grown, o₁, hc₁, hrest⟩ := offsets.of_append hes
    have there₁ := placedItems_mono grown ha
    have page : standing q s₁.items ⟨item, place⟩ < o₁ + s₁.pageSize := by
      rw [selected_read hc₁] at first
      by_contra beyond
      have none := count_page there₁ o₁ s₁.pageSize
      rw [if_neg fun h => beyond h.2] at none
      exact List.count_eq_zero.mp none first
    rcases hrest with hnil | rest
    · simp at hnil
    · by_contra none
      refine rest.not_taken_of_passed there₁ page rfl ?_ second
      intro w hw
      by_contra later
      exact none ⟨w, hw, Bool.not_eq_false _ ▸ later⟩
  · intro e he
    cases e with
    | write w => exact List.nodup_nil
    | read s' c' =>
      obtain ⟨earlier, later, hes⟩ := List.append_of_mem he
      obtain ⟨-, o', hc', -⟩ := offsets.of_append hes
      rw [selected_read hc', List.map_take, List.map_drop]
      exact ((List.take_sublist _ _).trans (List.drop_sublist _ _)).nodup (nodup_places q _)

/-- Pages of one item, with a call that comes in between the page reads and starts last. -/
theorem scan_amid_adds_of_late_call :
    let call (start : String) := Json.object [("startedAt", .string start)]
    let s := (empty 1 none).add "acme" (call "2024-05-02")
    let q : RecordQuery := ⟨"acme", "2024", "2025"⟩
    let late := ("acme", call "2024-05-03")
    s.failOnPage = none ∧ s.items[0]? = some ("acme", call "2024-05-02") ∧
      ∃ es r, ScansAmid put q s none es r ∧
        ScanEvent.write late ∈ es ∧ times q es 0 = 1 := by
  intro call s q late
  have wanted : q.wants (call "2024-05-02") = true := by decide +kernel
  have two : ((s.put late).matching q).length = 2 := by
    rw [matching, List.length_mergeSort]
    decide +kernel
  have run : ScansAmid put q s none _ _ :=
    .write (w := late) <|
      .more (queryPage_of_offset rfl rfl (by decide)) (if_pos (by rw [two]; decide)) <|
        .last (queryPage_of_offset rfl (offset_text (by decide)) (by decide))
          (if_neg (by rw [matching_served, two]; decide))
  refine ⟨rfl, rfl, _, _, run, List.mem_cons_self, ?_⟩
  obtain ⟨least, most, -⟩ := (scan_amid_adds rfl run).2.1 0 _ rfl wanted
  exact Nat.le_antisymm (most.trans (by decide +kernel)) least

/-- **An item that is overtaken comes out again**: on pages of one item, a call that starts
before the first one and comes in after its page read. -/
theorem scan_takes_overtaken_item_twice :
    let call (start : String) := Json.object [("startedAt", .string start)]
    let s := ((empty 1 none).add "acme" (call "2024-05-02")).add "acme" (call "2024-05-03")
    let q : RecordQuery := ⟨"acme", "2024", "2025"⟩
    s.failOnPage = none ∧ s.items[0]? = some ("acme", call "2024-05-02") ∧
      q.wants (call "2024-05-02") = true ∧
      ∃ es r, ScansAmid put q s none es r ∧ times q es 0 = 2 := by
  intro call s q
  let early := ("acme", call "2024-05-01")
  have two : (s.matching q).length = 2 := by
    rw [matching, List.length_mergeSort]
    decide +kernel
  have three : (((s.served 1).put early).matching q).length = 3 := by
    rw [matching, List.length_mergeSort]
    decide +kernel
  have second : offset (some (Decimal.text 1)) = .ok 1 := offset_text (by decide)
  have third : offset (some (Decimal.text 2)) = .ok 2 := offset_text (by decide)
  have run : ScansAmid put q s none
      [.read s none, .write early, .read ((s.served 1).put early) (some (Decimal.text 1)),
        .read (((s.served 1).put early).served 1) (some (Decimal.text 2))] _ :=
    .more (queryPage_of_offset rfl rfl (by decide)) (if_pos (by rw [two]; decide)) <|
      .write <|
        .more (queryPage_of_offset rfl second (by decide)) (if_pos (by rw [three]; decide)) <|
          .last (queryPage_of_offset rfl third (by decide))
            (if_neg (by rw [matching_served, three]; decide))
  have before : ⟨call "2024-05-02", 0⟩ ∈ placedItems q s.items :=
    mem_placedItems.mpr ⟨rfl, by decide +kernel⟩
  have after : ⟨call "2024-05-02", 0⟩ ∈ placedItems q ((s.served 1).put early).items :=
    placedItems_mono (items_isPrefix_put (s.served 1) early) before
  have later : ⟨call "2024-05-02", 0⟩ ∈ placedItems q (((s.served 1).put early).served 1).items :=
    after
  refine ⟨rfl, rfl, by decide +kernel, _, _, run, ?_⟩
  rw [times_cons, times_cons, times_cons, times_cons, selected_read rfl, selected_read second,
    selected_read third, count_page before, count_page after, count_page later]
  decide +kernel

end MemoryStore

end CallMeter
