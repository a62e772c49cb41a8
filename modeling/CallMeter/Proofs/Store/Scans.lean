import CallMeter.Store.Scan

/-!
# Scans without a bound

A scan goes on as long as pages name a cursor. This is a relation between the store and cursor
a scan starts from, the number of pages it reads, what it returns and the store it leaves. It
does not mention a bound on the pages; a bounded scan agrees with it as soon as the bound is
not below the number of pages. A scan amid writes goes on in the same way on a store that others
write to between its page reads.

## Main definitions

* `Scans q s c n r s'`: the scan of `q` from the store `s` and cursor `c` reads `n` pages,
  returns `r` and leaves `s'`
* `ScansAmid put q s c es r`: the scan with writes in between, `es` being what happened in turn

## Main results

* `scanFrom_eq_of_scans`: a bounded scan with pages enough is the unbounded one
* `Scans.det`: a scan has one outcome
-/

namespace CallMeter

variable {σ : Type} [CallStore σ]

/-- **The scan** of a query, from a store and cursor until a page fails or names no cursor. -/
inductive Scans (q : RecordQuery) :
    σ → Option String → Nat → Except StoreFault (List CallRecord) → σ → Prop
  | fault {s s' : σ} {c : Option String} {fault : StoreFault}
      (h : CallStore.queryPage s q c = (.error fault, s')) : Scans q s c 1 (.error fault) s'
  | last {s s' : σ} {c : Option String} {page : RecordPage}
      (h : CallStore.queryPage s q c = (.ok page, s')) (hn : page.next = none) :
      Scans q s c 1 (.ok page.records) s'
  | more {s s' s'' : σ} {c : Option String} {page : RecordPage} {next : String} {n : Nat}
      {r : Except StoreFault (List CallRecord)}
      (h : CallStore.queryPage s q c = (.ok page, s')) (hn : page.next = some next)
      (rest : Scans q s' (some next) n r s'') :
      Scans q s c (n + 1) (r.map (page.records ++ ·)) s''

variable {q : RecordQuery} {s s' : σ} {c : Option String} {n : Nat}
  {r : Except StoreFault (List CallRecord)}

/-- **A bound on the pages is never felt** when it is not below the pages a scan reads. -/
theorem scanFrom_eq_of_scans (h : Scans q s c n r s') {bound : Nat} (hb : n ≤ bound) :
    scanFrom q bound s c = (r, s') := by
  induction h generalizing bound with
  | fault h =>
    obtain ⟨b, rfl⟩ := Nat.exists_eq_succ_of_ne_zero (Nat.ne_of_gt hb)
    simp only [scanFrom, h]
  | last h hn =>
    obtain ⟨b, rfl⟩ := Nat.exists_eq_succ_of_ne_zero (Nat.ne_of_gt hb)
    simp only [scanFrom, h, hn]
  | more h hn rest ih =>
    obtain ⟨b, rfl⟩ :=
      Nat.exists_eq_succ_of_ne_zero (Nat.ne_of_gt (Nat.lt_of_lt_of_le (Nat.succ_pos _) hb))
    simp only [scanFrom, h, hn, ih (Nat.le_of_succ_le_succ hb)]

/-- The pages of a scan and what comes of it are determined by where it starts. -/
theorem Scans.det (h : Scans q s c n r s') {n₁ : Nat} {r₁ : Except StoreFault (List CallRecord)}
    {s₁ : σ} (h₁ : Scans q s c n₁ r₁ s₁) : n = n₁ ∧ r = r₁ ∧ s' = s₁ := by
  induction h generalizing n₁ r₁ s₁ with
  | fault h =>
    cases h₁ with
    | fault h₁ => simp_all
    | last h₁ _ => simp_all
    | more h₁ _ _ => simp_all
  | last h hn =>
    cases h₁ with
    | fault h₁ => simp_all
    | last h₁ _ => simp_all
    | more h₁ hn₁ _ => simp_all
  | more h hn rest ih =>
    cases h₁ with
    | fault h₁ => simp_all
    | last h₁ hn₁ => simp_all
    | more h₁ hn₁ rest₁ =>
      obtain ⟨hp, rfl⟩ := Prod.mk.inj (h.symm.trans h₁)
      obtain rfl := Except.ok.inj hp
      obtain rfl := Option.some.inj (hn.symm.trans hn₁)
      obtain ⟨rfl, rfl, rfl⟩ := ih rest₁
      exact ⟨rfl, rfl, rfl⟩

/-- All records of a query are those of its scan from the first page on. -/
theorem readRecords_eq_of_scans (h : Scans q s none n r s') (hn : n ≤ CallStore.held s + 1) :
    readRecords s q = (r, s') :=
  scanFrom_eq_of_scans h hn

/-! ## Scans amid writes -/

/-- **Event** of a scan amid writes: a page read from a store at a cursor, or a write. -/
inductive ScanEvent (σ ω : Type)
  | read (s : σ) (c : Option String)
  | write (w : ω)

/-- **The scan amid writes** of a query, from a store and cursor until a page fails or names no
cursor. Any writes may come before each page read. -/
inductive ScansAmid {ω : Type} (put : σ → ω → σ) (q : RecordQuery) :
    σ → Option String → List (ScanEvent σ ω) → Except StoreFault (List CallRecord) → Prop
  | write {s : σ} {c : Option String} {w : ω} {es : List (ScanEvent σ ω)}
      {r : Except StoreFault (List CallRecord)} (rest : ScansAmid put q (put s w) c es r) :
      ScansAmid put q s c (.write w :: es) r
  | fault {s s' : σ} {c : Option String} {fault : StoreFault}
      (h : CallStore.queryPage s q c = (.error fault, s')) :
      ScansAmid put q s c [.read s c] (.error fault)
  | last {s s' : σ} {c : Option String} {page : RecordPage}
      (h : CallStore.queryPage s q c = (.ok page, s')) (hn : page.next = none) :
      ScansAmid put q s c [.read s c] (.ok page.records)
  | more {s s' : σ} {c : Option String} {page : RecordPage} {next : String}
      {es : List (ScanEvent σ ω)} {r : Except StoreFault (List CallRecord)}
      (h : CallStore.queryPage s q c = (.ok page, s')) (hn : page.next = some next)
      (rest : ScansAmid put q s' (some next) es r) :
      ScansAmid put q s c (.read s c :: es) (r.map (page.records ++ ·))

end CallMeter
