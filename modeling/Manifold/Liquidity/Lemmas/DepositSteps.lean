import Manifold.Liquidity.Deposits
import Manifold.Liquidity.Lemmas.ItemIds

/-!
# Deposits under one question
-/

namespace Manifold.Liquidity

open Lib

/-! ## The record of a deposit -/

section record

variable {es out : List Note} {f : FederationId} {committed : Sats} {s s' : StabilityStep}
  {submission : StabilityDepositSubmission}

def Uninserted (f : FederationId) (out : List Note) : Prop := ∀ n ∈ out, n.2 ≠ .allocationInserted f

theorem sinceInserted_append (h : Uninserted f out) : sinceInserted f (es ++ out) = sinceInserted f es ++ out :=
  Trace.since_append fun n hn => by simpa using h n hn

theorem BoundSince.append (hu : Uninserted f out) (h : BoundSince f es) : BoundSince f (es ++ out) := by
  obtain ⟨c, step, hn⟩ := h
  exact ⟨c, step, by rw [sinceInserted_append hu]; exact List.mem_append_left _ hn⟩

theorem StagedSince.append (hu : Uninserted f out) (h : StagedSince f es submission) :
    StagedSince f (es ++ out) submission := by
  obtain ⟨c, old, ho, hn⟩ := h
  exact ⟨c, old, ho, by rw [sinceInserted_append hu]; exact List.mem_append_left _ hn⟩

theorem sentSince_append (hu : Uninserted f out) (h : SentSince f (es ++ out) submission) :
    SentSince f es submission ∨ ∃ n ∈ out, n.2 = .depositSubmitted (itemIdOf f .stabilityPool) submission := by
  obtain ⟨c, hn⟩ := h
  rw [sinceInserted_append hu] at hn
  rcases List.mem_append.mp hn with hn | hn
  · exact .inl ⟨c, hn⟩
  · exact .inr ⟨_, hn, rfl⟩

theorem submission_congr (hid : s'.spDepositOperationId = s.spDepositOperationId)
    (hamount : s'.spDepositAmount = s.spDepositAmount)
    (hfee : s'.spDepositMinFeeRatePpb = s.spDepositMinFeeRatePpb) : s'.submission = s.submission := by
  unfold StabilityStep.submission
  rw [hid, hamount, hfee]

theorem submission_none (h : s.spDepositOperationId = none) : s.submission = none := by
  unfold StabilityStep.submission
  rw [h]

theorem Recorded.append (h : Recorded es f committed s) (hu : Uninserted f out)
    (hsub : ∀ n ∈ out, ∀ submission, n.2 = .depositSubmitted (itemIdOf f .stabilityPool) submission →
      s.submission = some submission) : Recorded (es ++ out) f committed s where
  amount := h.amount
  origin hid := by
    rcases h.origin hid with ⟨hb, hst⟩ | ⟨⟨submission, hs, hst⟩, hrest⟩
    · exact .inl ⟨hb.append hu, hst⟩
    · exact .inr ⟨⟨submission, hs, hst.append hu⟩, hrest⟩
  sent submission hs := by
    rcases sentSince_append hu hs with hs | ⟨n, hn, he⟩
    · exact h.sent submission hs
    · exact hsub n hn submission he

theorem Recorded.move (h : Recorded es f committed s) (hm : StepMove s s') : Recorded es f committed s' := by
  have hsub := submission_congr hm.operationId hm.amount hm.minFeeRatePpb
  refine ⟨fun hid => ?_, fun hid => ?_, fun submission hs => hsub ▸ h.sent submission hs⟩
  · rw [hm.operationId] at hid
    rw [hm.amount]
    exact h.amount hid
  rw [hm.operationId] at hid
  rcases h.origin hid with ⟨hb, hst⟩ | ⟨⟨submission, hs, hst⟩, ⟨a, ha, hle⟩, haddr⟩
  · exact .inl ⟨hb, fun he => hst (hm.submitting he)⟩
  · exact .inr ⟨⟨submission, hsub ▸ hs, hst⟩, ⟨a, hm.claimed haddr a ha, hle⟩, by rw [hm.address haddr]; exact haddr⟩

theorem Recorded.not_sent (h : Recorded es f committed s) (hid : s.spDepositOperationId = none) :
    ¬ SentSince f es submission := fun hs => by
  have := h.sent submission hs
  rw [submission_none hid] at this
  cases this

theorem Recorded.restart
    (h : Recorded es f committed s) (hid : s.spDepositOperationId = none) (hu : Uninserted f out)
    (hno : ∀ n ∈ out, ∀ submission, n.2 ≠ .depositSubmitted (itemIdOf f .stabilityPool) submission)
    (hamount : s'.spDepositAmount = some committed)
    (horigin : BoundSince f (es ++ out) ∧ s'.spDepositStatus ≠ some .submitting ∨
      (∃ submission, s'.submission = some submission ∧ StagedSince f (es ++ out) submission) ∧
        (∃ a, s'.claimedAmount = some a ∧ committed ≤ a) ∧ s'.pegInAddress.isSome = true) :
    Recorded (es ++ out) f committed s' where
  amount _ := hamount
  origin _ := horigin
  sent submission hs := by
    rcases sentSince_append hu hs with hs | ⟨n, hn, he⟩
    · exact absurd hs (h.not_sent hid)
    · exact absurd he (hno n hn submission)

end record

section handler

variable {w w' : World} {x : Outside} {out : List Event} {e : Ask} {r : Ans e} {es : List Note} {caller : Caller}

theorem mem_notes {n} (h : n ∈ notes caller out) : n.1 = caller ∧ n.2 ∈ out := by
  obtain ⟨ev, hev, rfl⟩ := List.mem_map.mp h
  exact ⟨rfl, hev⟩

/-! ## The rows -/

structure DbNamed (db : Db) : Prop where
  operations : Table.Keyed (·.operationId) db.operations
  items : Table.Keyed (·.itemId) db.items
  rows : ∀ i ∈ db.items, i.itemId = itemIdOf i.federationId i.sourceType
  allocated : ∀ i ∈ db.items, ∃ a ∈ db.allocations, a.federationId = i.federationId

def RowsRecorded (es : List Note) (db : Db) : Prop :=
  ∀ row ∈ db.items, row.sourceType = .stabilityPool →
    Recorded es row.federationId row.committedAmount (StepJson.readStability row.step).1

theorem uninserted_of_kept (hd : DbNamed w.db) (hs : handler e w x = some (r, w', out)) {row}
    (hrow : row ∈ w.db.items) (hrel : .allocationReleased row.federationId ∉ out) :
    Uninserted row.federationId (notes caller out) := by
  intro n hn he
  have hev := (mem_notes hn).2
  rw [he] at hev
  obtain ⟨a, ha, hf⟩ := hd.allocated row hrow
  rcases handler_inserted hs hd.operations hev with hev | hno
  · exact hrel hev
  · exact hno a ha hf

theorem recorded_new {f committed before n} (hn : n.2 = .allocationInserted f) :
    Recorded (es ++ (before ++ [n])) f committed {} := by
  have hnil : sinceInserted f (es ++ (before ++ [n])) = [] := by
    rw [sinceInserted, ← List.append_assoc, Trace.since_snoc, hn]
    simp
  refine ⟨fun h => ?_, fun h => ?_, fun submission ⟨c, hs⟩ => ?_⟩
  · cases h
  · cases h
  · rw [hnil] at hs
    cases hs

theorem rowsRecorded_step (hd : DbNamed w.db) (hi : RowsRecorded es w.db) (hs : handler e w x = some (r, w', out))
    (hstep : ∀ row ∈ w.db.items, row.sourceType = .stabilityPool → row.status.active = true → ∀ step,
      Uninserted row.federationId (notes caller out) →
      (∃ row' ∈ w'.db.items, row'.itemId = row.itemId ∧ row'.step = some step) →
      (e = .updateItemStep row.itemId step ∨
        ∃ expected, e = .compareAndSetItemStep row.itemId expected step ∧ row.step = some expected) →
      Recorded (es ++ notes caller out) row.federationId row.committedAmount
        (StepJson.readStability (some step)).1)
    (hbind : ∀ row ∈ w.db.items, row.sourceType = .stabilityPool → row.status = .actionRequired → ∀ step,
      Uninserted row.federationId (notes caller out) →
      (∃ row' ∈ w'.db.items, row'.itemId = row.itemId ∧ row'.status = .running) →
      e = .bindAndResume row.itemId step →
      Recorded (es ++ notes caller out) row.federationId row.committedAmount step)
    (hsub : ∀ row ∈ w.db.items, row.sourceType = .stabilityPool → ∀ submission,
      e = .submitDepositToProvide row.itemId submission →
      (StepJson.readStability row.step).1.submission = some submission) :
    RowsRecorded (es ++ notes caller out) w'.db := by
  intro row' hrow' hsrc'
  rcases (handler_items hd.operations hs).back hrow' with
    ⟨row, hrow, hc, hrel⟩ | ⟨kept, new, config, revision, request, items, now, hacc, p, hp, rfl⟩
  · have hu : Uninserted row.federationId (notes caller out) := uninserted_of_kept hd hs hrow hrel
    have hsrc : row.sourceType = .stabilityPool := hc.kept.sourceType ▸ hsrc'
    rw [hc.kept.federationId, hc.kept.committedAmount]
    rcases hc.step_cases with h | ⟨step, he, hact, h⟩ | ⟨step, he, hst, h', h⟩ <;> rw [h]
    · -- a submission is of what the step records
      refine (hi row hrow hsrc).append hu fun n hn submission hns => ?_
      have hev := (mem_notes hn).2
      rw [hns] at hev
      have hid := hd.rows row hrow
      rw [hsrc] at hid
      exact hsub row hrow hsrc submission (by rw [hid]; exact handler_emits hd.operations hs _ hev)
    · exact hstep row hrow hsrc hact step hu ⟨row', hrow', hc.kept.itemId, h⟩ he
    · exact hbind row hrow hsrc hst step hu ⟨row', hrow', hc.kept.itemId, h'⟩ he
  · obtain ⟨before, hout, -⟩ := hacc.inserted
    rw [hout, notes, List.map_append]
    exact recorded_new rfl

end handler

end Manifold.Liquidity
