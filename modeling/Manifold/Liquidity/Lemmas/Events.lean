import Manifold.Liquidity.Lemmas.Rows

/-!
# What the events say
-/

namespace Manifold.Liquidity

open Lib

variable {w w' : World} {x : Outside} {out : List Event}

def Emits (w w' : World) (e : Ask) : Event → Prop
  | .operationCreated row => w.db.operation row.operationId = none ∧ row ∈ w'.db.operations
  | .ensured i o =>
    ∃ row₀ row, e = .ensureWalletOperation row₀ i ∧ w.db.itemActive i = true ∧ row ∈ w'.db.operations ∧
      row.operationId = o ∧ row.operationType = row₀.operationType ∧
      (row.itemId = some i ∨ row.itemId = row₀.itemId)
  | .fenced o it =>
    (∃ row, w'.db.operation o = some row ∧ row.status = .inDoubt) ∧
      ((∃ i failure row, it = some i ∧ e = .claimFundingSubmission o i failure ∧
          w.db.operation o = some row ∧ row.itemId = some i ∧ row.status = .pending ∧
          w.db.itemActive i = true) ∨
        ∃ config request feeRate spendable, it = none ∧
          e = .admitWithdrawal config request feeRate o spendable ∧ w.db.operation o = none ∧
          ∃ row, w'.db.operation o = some row ∧ row.operationType = .withdrawal)
  | .prepareFailed o => ∃ p, e = .prepareWithdrawal p ∧ p.operationId = o
  | .submitted p => e = .submitPrepared p
  | .submitRefused o => ∃ p, e = .submitResponse p ∧ p.operationId = o
  | .resolved o outcome =>
    (e = .resolveReview o outcome ∨
      ∃ txid reason, outcome = .completed txid ∧ e = .completeReviewWithoutEvidence o txid reason) ∧
      ∃ row, w.db.operation o = some row ∧ row.status = .manualReviewRequired
  | .retried o =>
    ∃ request row, e = .retryFundingStep request ∧ w.db.operation o = some row ∧ row.status = .failed
  | .allocationInserted f =>
    ∃ config revision request, e = .acceptRequest config revision request ∧ request.target.federationId = f
  | .allocationReleased f =>
    e = .releaseAllocation f ∨
      ∃ config revision request, e = .acceptRequest config revision request ∧ request.target.federationId = f
  | .itemCompleted i o =>
    ∃ kind fulfilled evidence, e = .completeItem i kind fulfilled evidence ∧ w.db.itemActive i = true ∧
      o = (w.db.walletOperationForItem kind.operationType i).map (·.operationId)
  | .depositSubmitted i submission => e = .submitDepositToProvide i submission
  | .stepSet i expected next =>
    e = .compareAndSetItemStep i expected next ∧
      w.db.affectsItem i (fun row => row.status.active && row.step = some expected) = true
  | .depositBound i step =>
    e = .bindAndResume i step ∧ w.db.affectsItem i (·.status = .actionRequired) = true

theorem run_emits {α : Type} {e : Ask} {f : Db → ServiceResult α × Db × List Event} {r : ServiceResult α}
    (h : w.run x f = some (r, w', out))
    (hf : ∀ ev ∈ (f w.db).2.2, Emits w { w with db := (f w.db).2.1 } e ev) : ∀ ev ∈ out, Emits w w' e ev := by
  rcases World.run_cases h with ⟨-, rfl, -⟩ | ⟨rfl, rfl, -⟩
  · simp
  · exact hf

section emits

variable {e : Ask}

theorem emits_runEnsure (row₀ : WalletOperation) (i : ItemId) (now : Timestamp) :
    ∀ ev ∈ (w.db.runEnsure { row₀ with updatedAt := now } i).2.2,
      Emits w { w with db := (w.db.runEnsure { row₀ with updatedAt := now } i).2.1 }
        (.ensureWalletOperation row₀ i) ev := by
  rcases Db.ensureWalletOperation_cases w.db { row₀ with updatedAt := now } i with
    h | ⟨e, h⟩ | ⟨r, h, ha, hr⟩ | ⟨db', h, ha, hins⟩
  · simp [Db.runEnsure, h]
  · simp [Db.runEnsure, h]
  · simp only [Db.runEnsure, h, List.forall_mem_singleton]
    have hp := List.find?_some hr
    simp only [Bool.and_eq_true, decide_eq_true_eq] at hp
    exact ⟨row₀, r, rfl, ha, List.mem_of_find?_eq_some hr, rfl, hp.1, .inl hp.2⟩
  obtain ⟨hdb, hnew, -⟩ := Db.insertWalletOperation_eq hins
  have hmem : ({ row₀ with updatedAt := now } : WalletOperation) ∈ db'.operations := by
    rw [hdb]; exact List.mem_append_right _ List.mem_cons_self
  simp only [Db.runEnsure, h, List.forall_mem_cons, List.not_mem_nil, false_implies, implies_true, and_true]
  exact ⟨⟨hnew, hmem⟩, row₀, _, rfl, ha, hmem, rfl, rfl, .inr rfl⟩

theorem emits_runClaim (o : OperationId) (i : ItemId) (failure₀ failure : AdminFailure) (now : Timestamp) :
    ∀ ev ∈ (w.db.runClaim o i failure now).2.2,
      Emits w { w with db := (w.db.runClaim o i failure now).2.1 } (.claimFundingSubmission o i failure₀) ev := by
  intro ev hev
  simp only [Db.runClaim] at hev
  split at hev
  · rename_i haff
    obtain ⟨row, hrow, hg⟩ := Db.affectsOperation_iff.mp haff
    have hg' := hg
    simp only [Bool.and_eq_true, decide_eq_true_eq] at hg'
    rw [List.mem_singleton.mp hev]
    refine ⟨⟨_, Db.operation_updateOperation (by intro _; rfl) hrow hg, rfl⟩, .inl ?_⟩
    exact ⟨i, failure₀, row, rfl, rfl, hrow, hg'.1.1, hg'.1.2, hg'.2⟩
  · cases hev

theorem emits_runAdmitWithdrawal (config : SetupConfig) (request : Db.WithdrawalRequest) (feeRate : Nat)
    (o : OperationId) (spendable : Sats) (now : Timestamp) :
    ∀ ev ∈ (w.db.runAdmitWithdrawal config request feeRate o spendable now).2.2,
      Emits w { w with db := (w.db.runAdmitWithdrawal config request feeRate o spendable now).2.1 }
        (.admitWithdrawal config request feeRate o spendable) ev := by
  rcases Db.admitWithdrawal_cases w.db config request feeRate o spendable now with
    ⟨e, h⟩ | ⟨r, h⟩ | ⟨db', h, -, hins⟩
  · simp [Db.runAdmitWithdrawal, h]
  · simp [Db.runAdmitWithdrawal, h]
  obtain ⟨hdb, hnew, -⟩ := Db.insertWalletOperation_eq hins
  have hnone := Db.stamp_operation_none.mp hnew
  have hmem : Db.newWithdrawal request feeRate o now ∈ db'.operations := by
    rw [hdb]; exact List.mem_append_right _ List.mem_cons_self
  have hrow : db'.operation o = some (Db.newWithdrawal request feeRate o now) := Db.operation_of_insert hins
  simp only [Db.runAdmitWithdrawal, h, List.forall_mem_cons, List.not_mem_nil, false_implies, implies_true, and_true]
  exact ⟨⟨hnone, hmem⟩, ⟨_, hrow, rfl⟩, .inr ⟨config, request, feeRate, spendable, rfl, rfl, hnone, _, hrow, rfl⟩⟩

theorem emits_runResolve {o outcome answer} (he : e = .resolveReview o outcome ∨
      ∃ txid reason, outcome = .completed txid ∧ e = .completeReviewWithoutEvidence o txid reason)
    (h : answer.1.status = .accepted → ∃ row, w.db.operation o = some row ∧ row.status = .manualReviewRequired) :
    ∀ ev ∈ (Db.runResolve o outcome answer).2.2,
      Emits w { w with db := (Db.runResolve o outcome answer).2.1 } e ev := by
  intro ev hev
  simp only [Db.runResolve] at hev
  split at hev
  · rw [List.mem_singleton.mp hev]
    exact ⟨he, h ‹_›⟩
  · cases hev

theorem emits_runRetry (hk : Table.Keyed (·.operationId) w.db.operations) (request : Db.RetryRequest)
    (now : Timestamp) :
    ∀ ev ∈ (w.db.runRetry request now).2.2,
      Emits w { w with db := (w.db.runRetry request now).2.1 } (.retryFundingStep request) ev := by
  rcases Db.retryFundingStep_cases w.db request now with h | ⟨ids, wallets, h, hf, -⟩
  · simp [Db.runRetry, h]
  intro ev hev
  simp only [Db.runRetry, h] at hev
  obtain ⟨o, ho, rfl⟩ := List.mem_map.mp hev
  obtain ⟨r, hr, rfl, hst⟩ := hf o ho
  exact ⟨request, r, rfl, Db.operation_of_mem hk hr, hst⟩

theorem emits_runComplete (i : ItemId) (kind : FundingKind) (fulfilled : Sats) (evidence : CompletionEvidence)
    (now : Timestamp) :
    ∀ ev ∈ (w.db.runComplete i kind fulfilled evidence now).2.2,
      Emits w { w with db := (w.db.runComplete i kind fulfilled evidence now).2.1 }
        (.completeItem i kind fulfilled evidence) ev := by
  intro ev hev
  simp only [Db.runComplete, Db.completeItem] at hev
  split at hev
  · rename_i hres
    split at hres
    · cases hres
    · rw [List.mem_singleton.mp hev]
      exact ⟨kind, fulfilled, evidence, rfl, by simpa using hres, rfl⟩
  · cases hev

theorem emits_runCompareAndSet (i : ItemId) (expected next : StepJson) (now : Timestamp) :
    ∀ ev ∈ (w.db.runCompareAndSet i expected next now).2.2,
      Emits w { w with db := (w.db.runCompareAndSet i expected next now).2.1 }
        (.compareAndSetItemStep i expected next) ev := by
  intro ev hev
  simp only [Db.runCompareAndSet] at hev
  split at hev
  · rename_i haff
    rw [List.mem_singleton.mp hev]
    exact ⟨rfl, haff⟩
  · cases hev

theorem emits_runBind (i : ItemId) (step : StabilityStep) (now : Timestamp) :
    ∀ ev ∈ (w.db.runBind i step now).2.2,
      Emits w { w with db := (w.db.runBind i step now).2.1 } (.bindAndResume i step) ev := by
  intro ev hev
  simp only [Db.runBind, Db.bindAndResume] at hev
  split at hev
  · rename_i hres
    split at hres
    · rename_i haff
      rw [List.mem_singleton.mp hev]
      exact ⟨rfl, haff⟩
    · cases hres
  · cases hev

theorem emits_runAccept (config : SetupConfig) (revision : Nat) (request : LiquidityRequest) (now : Timestamp)
    (stamp : SourceType → Timestamp) : ∀ ev ∈ (w.db.runAccept config revision request now stamp).2.2,
      Emits w { w with db := (w.db.runAccept config revision request now stamp).2.1 }
        (.acceptRequest config revision request) ev := by
  intro ev hev
  unfold Db.runAccept at hev
  split at hev
  · cases hev
  · rename_i released _
    rcases Lib.mem_snoc.mp hev with hev | rfl
    · cases released
      · cases hev
      · rw [List.mem_singleton.mp hev]
        exact .inr ⟨config, revision, request, rfl, rfl⟩
    · exact ⟨config, revision, request, rfl, rfl⟩
  · cases hev

end emits

theorem handler_emits {e r} (hk : Table.Keyed (·.operationId) w.db.operations)
    (h : handler e w x = some (r, w', out)) : ∀ ev ∈ out, Emits w w' e ev := by
  cases e <;> simp only [handler] at h
  case prepareWithdrawal p =>
    split at h
    · cases h
      exact List.forall_mem_singleton.mpr ⟨p, rfl, rfl⟩
    cases h
    split
    · simp
    · exact List.forall_mem_singleton.mpr ⟨p, rfl, rfl⟩
  case submitPrepared p =>
    cases h
    exact List.forall_mem_singleton.mpr rfl
  case submitResponse p =>
    split at h
    · split at h
      · cases h
        exact List.forall_mem_singleton.mpr ⟨p, rfl, rfl⟩
      · split at h <;> cases h
        exact List.forall_mem_singleton.mpr ⟨p, rfl, rfl⟩
    · cases h; simp
  case submitDepositToProvide itemId submission =>
    cases h
    exact List.forall_mem_singleton.mpr rfl
  case activeItems kind => split at h <;> cases h <;> simp
  all_goals first
    | (cases h; simp)
    | refine run_emits h ?_
  case ensureWalletOperation row itemId => exact emits_runEnsure row itemId x.now
  case claimFundingSubmission id itemId failure => exact emits_runClaim id itemId failure _ x.now
  case admitWithdrawal config request feeRate id spendable =>
    exact emits_runAdmitWithdrawal config request feeRate id spendable x.now
  case insertWalletOperation row =>
    unfold Db.runInsert
    split
    · rename_i hins
      obtain ⟨hdb, hnew, -⟩ := Db.insertWalletOperation_eq hins
      exact List.forall_mem_singleton.mpr ⟨hnew, by rw [hdb]; exact List.mem_append_right _ List.mem_cons_self⟩
    · simp
  case retryFundingStep request => exact emits_runRetry hk request x.now
  case resolveReview id outcome =>
    refine emits_runResolve (.inl rfl) fun hacc => ?_
    unfold Db.resolveReview at hacc
    split at hacc
    · cases hacc
    rename_i row hrow
    split at hacc
    · split at hacc <;> cases hacc
    · rename_i hne
      exact ⟨row, hrow, not_not.mp hne⟩
  case completeReviewWithoutEvidence id txid reason =>
    refine emits_runResolve (.inr ⟨txid, reason, rfl, rfl⟩) fun hacc => ?_
    unfold Db.completeReviewWithoutEvidence at hacc
    split at hacc
    · cases hacc
    rename_i row hrow
    split at hacc
    · cases hacc
    · rename_i hne
      exact ⟨row, hrow, not_not.mp hne⟩
  case compareAndSetItemStep id expected next => exact emits_runCompareAndSet id expected next x.now
  case bindAndResume id step => exact emits_runBind id step x.now
  case completeItem id kind fulfilled evidence => exact emits_runComplete id kind fulfilled evidence x.now
  case releaseAllocation federationId =>
    unfold Db.runRelease
    split
    · exact List.forall_mem_singleton.mpr (.inl rfl)
    · simp
  case acceptRequest config revision request => exact emits_runAccept config revision request x.now x.stamp
  case getWalletOperation id => split <;> simp
  case upsertWalletBalanceObservation network spendable readAt =>
    unfold Db.runUpsertBalance
    split <;> simp
  all_goals simp

end Manifold.Liquidity
