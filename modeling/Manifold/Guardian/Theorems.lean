import Mathlib.Data.List.Nodup
import Manifold.Guardian.Lemmas.Settlement

/-!
# Guarantees of a Manifold Guardian
-/

namespace Manifold.Guardian

/-! ## Quotes and admissions -/

namespace Admission

/-- A current-epoch quote has a slot, so the capacity assertion never fails; an inserted seat takes the next ordinal
of the port grid and exactly one slot. -/
theorem live_quote_has_slot {first : PortBase} {es : List Event} {s : State}
    (h : (machine first).Reaches es s) :
    (∀ q ∈ s.issued.map Prod.fst, s.store.seats.find? q.quoteId = none →
      q.offerEpoch = s.store.offer.offerEpoch → 0 < s.store.slots first) ∧
    (∀ id, .assertionFailed id ∉ es) ∧
    (∀ a t out id facts, step first s a = some (t, out) → .answered id (.inserted facts) ∈ out →
      (∀ r ∈ s.store.seats.rows, r.facts.seatNo < facts.seatNo) ∧
      (SeatNo.portBase facts.seatNo first).isSome ∧
      t.store.slots first + 1 = s.store.slots first) ∧
    es.Pairwise Event.NumberBelow := by
  have hI := Inv.of_reaches h
  refine ⟨fun q hq _ he => hI.live_slot q hq he, hI.no_assertion, ?_, hI.numbers⟩
  intro a t out id facts hst hmem
  obtain ⟨heff, -⟩ := step_effect hI.calls hst
  cases heff with
  | quoted | silent | assertionFailed | written => simp at hmem
  | answered q r hq hr =>
    cases List.mem_singleton.mp hmem
    exact hr.elim
  | inserted q payment facts' tx hq he hins hf hs =>
    cases List.mem_singleton.mp hmem
    refine ⟨fun r hr => ?_, hins.inGrid, by rw [hs]; exact hins.slots⟩
    rw [hins.seatNo]
    exact SeatTable.lt_nextNo hr

def sellingStore : Store where
  seats := .empty
  offer :=
    { maxSeats := some 2, memoryMaxSeats := 4, policyMaxSeats := 12, readyForNewSeats := true
      priceMsats := some 1000, offerEpoch := 1, updatedAtMs := none }
  stage := .complete
  members := ["federation"]
  setupPaymentEvent := none

/-- Three quotes pass their snapshots. Two insert, the second into the last slot, so the third is refused; a replay
answers the stored seat. -/
def sellingRun : List Act :=
  let quote (id : QuoteId) : Quote :=
    { quoteId := id, offerEpoch := 1, faId := 7, plan := .infiniteBestEffort 1000, federationSize := 4 }
  [.getQuote (quote 10), .getQuote (quote 11), .getQuote (quote 12), .createSeat (quote 10) (some [1]),
   .createSeat (quote 11) none, .createSeat (quote 12) none, .writer 2 5 2, .writer 1 6 2, .writer 0 7 3,
   .createSeat (quote 10) (some [1])]

theorem live_quote_has_slot_selling :
    ((machine ⟨50000, by decide⟩).exec ⟨sellingStore, [], [], [1]⟩ sellingRun).isSome = true ∧
    ∀ r ∈ (machine ⟨50000, by decide⟩).exec ⟨sellingStore, [], [], [1]⟩ sellingRun, ∀ id, .assertionFailed id ∉ r.2 :=
  ⟨by decide +kernel, fun _ hr => (live_quote_has_slot (Lib.Machine.reaches_of_exec ⟨rfl, rfl, rfl⟩ hr)).2.1⟩

/-- No quote is both refused with its refund and claimed, and after an insertion every answer names the inserted
seat. -/
theorem settlement_exclusive {first : PortBase} {es : List Event} {s : State}
    (h : (machine first).Reaches es s) :
    (∀ id facts, .answered id .offerChanged ∈ es →
      .answered id (.inserted facts) ∉ es ∧ .answered id (.existing facts) ∉ es) ∧
    es.Pairwise Event.Consistent ∧
    (∀ id, s.store.seats.rows.countP (fun r => r.facts.seatId = id) ≤ 1 ∧
      s.store.seats.rows.countP (fun r => r.facts.seatId = id ∧ r.claim.isSome) ≤ 1) := by
  have hI := Inv.of_reaches h
  refine ⟨fun id facts hmem => ?_, hI.consistent, fun id => ?_⟩
  · have hnone := (hI.refused id hmem).1
    constructor
    · intro hins
      have := hI.seated id facts (Or.inl hins)
      simp [hnone] at this
    · intro hex
      have := hI.seated id facts (Or.inr hex)
      simp [hnone] at this
  have hcount : s.store.seats.rows.countP (fun r => r.facts.seatId = id) ≤ 1 := by
    have := List.nodup_iff_count_le_one.mp s.store.seats.ids_nodup id
    rw [List.count, List.countP_map] at this
    simpa [Function.comp_def, Bool.beq_eq_decide_eq] using this
  refine ⟨hcount, Nat.le_trans (List.countP_mono_left fun r _ hr => ?_) hcount⟩
  simp only [decide_eq_true_eq] at hr ⊢
  exact hr.1

theorem settlement_exclusive_selling :
    (∃ r ∈ (machine ⟨50000, by decide⟩).exec ⟨sellingStore, [], [], [1]⟩ sellingRun, .answered 12 .offerChanged ∈ r.2) ∧
    ∀ r ∈ (machine ⟨50000, by decide⟩).exec ⟨sellingStore, [], [], [1]⟩ sellingRun,
      ∀ facts, .answered 12 .offerChanged ∈ r.2 → .answered 12 (.inserted facts) ∉ r.2 := by
  refine ⟨?_, fun _ hr facts hmem => ?_⟩
  · have hsome : ((machine ⟨50000, by decide⟩).exec ⟨sellingStore, [], [], [1]⟩ sellingRun).any
        (fun r => decide (Event.answered 12 .offerChanged ∈ r.2)) = true := by decide +kernel
    simpa [Option.any_eq_true] using hsome
  · exact ((settlement_exclusive (Lib.Machine.reaches_of_exec ⟨rfl, rfl, rfl⟩ hr)).1 12 facts hmem).1

end Admission

end Manifold.Guardian
