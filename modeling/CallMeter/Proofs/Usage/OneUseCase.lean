import CallMeter.Proofs.Usage.Summaries

/-!
# Usage of one use case

Each record goes into the tally of its use case and into the total. Where all records that count
are of one use case the two are built alike, so its row and the totals show the same figures. Only
their estimates may differ: a row is priced with the model that its hint names, the totals with the
costliest one. Where these are one model, the estimates are the same too.

## Main definitions

* `Usage.Alone`: the only tally is the total
* `Figures.AgreeInUsage`: figures that agree in all but the estimate

## Main results

* `Alone.record`, `alone_ofRecords`: what a record, and what all records keep
* `row_agrees_with_totals`: the only row of a summary agrees with the totals
-/

namespace CallMeter

open Pricing (RateCard)

/-! ## One tally -/

namespace Usage

variable {u : Usage} {r : CallRecord} {rs : List CallRecord} {id : String}

/-- **A use case is alone**: there are no tallies yet, or only its own, which is the total. -/
inductive Alone (id : String) (u : Usage) : Prop
  | unused (h : u = .empty)
  | only (h : u.byUseCase = [(id, u.total)])

/-- A record of the use case is the same to its tally and to the total. -/
theorem byUseCase_record_of_alone (h : u.Alone id) (hr : r.useCase = some id) :
    (u.record r).byUseCase = [(id, (u.record r).total)] := by
  rw [record, hr]
  rcases h with rfl | h
  · rfl
  · have found : u.tally? id = some u.total := by
      rw [tally?, h, Entries.get?, if_pos rfl]
    simp only [found, h, Entries.put, if_pos, Option.getD_some]

/-- **One record** keeps a use case alone, if it is of no other one. -/
theorem Alone.record (h : u.Alone id) (hr : r.useCase = none ∨ r.useCase = some id) :
    (u.record r).Alone id := by
  rcases hr with hr | hr
  · rwa [Usage.record, hr]
  · exact .only (byUseCase_record_of_alone h hr)

/-- **All records** keep it alone. -/
theorem alone_ofRecords (same : ∀ r ∈ rs, r.useCase = none ∨ r.useCase = some id) :
    (ofRecords rs).Alone id :=
  List.foldlRecOn rs record (.unused rfl) fun _ h r hr => h.record (same r hr)

theorem byUseCase_of_alone (h : (ofRecords rs).Alone id) (known : ∃ r ∈ rs, r.useCase = some id) :
    (ofRecords rs).byUseCase = [(id, (ofRecords rs).total)] := by
  rcases h with empty | h
  · obtain ⟨r, hr, hid⟩ := known
    have calls : callsOf id rs ≠ [] :=
      List.ne_nil_of_mem (List.mem_filter.mpr ⟨hr, decide_eq_true hid⟩)
    have entry := mem_useCases.mpr calls
    rw [empty] at entry
    cases entry
  · exact h

end Usage

/-! ## One row -/

/-- **Figures that agree in usage**: in all but the estimate. -/
def Figures.AgreeInUsage (f g : Figures) : Prop :=
  { f with estimate := g.estimate } = g

namespace Summary

variable {rs : List CallRecord} {id : String}

/-- **The only row of a summary agrees with the totals** in usage, and in the estimate if its hint
names the costliest model. -/
theorem row_agrees_with_totals (known : ∃ r ∈ rs, r.useCase = some id)
    (same : ∀ r ∈ rs, r.useCase = none ∨ r.useCase = some id) (tenant : String) (window : Window)
    (profiles : List (String × Profile)) (card : RateCard) :
    ∃ row, (build tenant window (.ofRecords rs) profiles card).rows = [row] ∧ row.useCase = id ∧
      row.modelHint = ((Entries.get? id profiles).getD (.unknown id)).modelHint ∧
      row.figures.AgreeInUsage (build tenant window (.ofRecords rs) profiles card).totals.figures ∧
      (card.findModel? row.modelHint = card.costliest? → row.figures.estimate =
        (build tenant window (.ofRecords rs) profiles card).totals.figures.estimate) := by
  have tally := Usage.byUseCase_of_alone (Usage.alone_ofRecords same) known
  refine ⟨.ofTally card ((Entries.get? id profiles).getD (.unknown id)) id
    (Usage.ofRecords rs).total, ?_, rfl, rfl, rfl, fun model => ?_⟩
  · show (rowsOf _ profiles card).mergeSort _ = _
    rw [rowsOf, tally, List.map_singleton, List.mergeSort_singleton]
  · show Pricing.estimate _ card (card.findModel? _) = Pricing.estimate _ card card.costliest?
    exact congrArg _ model

/-- Two calls of one use case and one of none, priced with the only model. -/
theorem row_agrees_with_totals_of_two_calls :
    let call : CallRecord := ⟨none, some "booking", some "2024-05-02T09:00:00Z",
      some "2024-05-02T09:01:30Z", none, true, false, 3, 250, 1000, 400⟩
    let records := [call, { call with useCase := none }, { call with hasError := true }]
    let profiles := [("booking", (⟨"booking", "Booking", some "Claude-HAIKU"⟩ : Profile))]
    let card : RateCard := { RateCard.default with models := [⟨"haiku", 0.25, 1.25⟩] }
    let s := build "acme" ⟨7, "2024-05-01", "2024-05-08"⟩ (.ofRecords records) profiles card
    ∃ row, s.rows = [row] ∧ row.useCase = "booking" ∧ row.figures = s.totals.figures := by
  intro call records profiles card s
  obtain ⟨row, rows, useCase, hint, usage, estimate⟩ :=
    @row_agrees_with_totals records "booking" ⟨call, by decide, rfl⟩ (by decide) "acme"
      ⟨7, "2024-05-01", "2024-05-08"⟩ profiles card
  have model : card.findModel? row.modelHint = card.costliest? := by
    rw [hint]
    decide +kernel
  have figures : row.figures = s.totals.figures := by
    rw [Figures.AgreeInUsage, ← estimate model] at usage
    exact usage
  exact ⟨row, rows, useCase, figures⟩

end Summary

end CallMeter
