import Manifold.Liquidity.Lemmas.DepositsFollow

/-!
# The calls follow the protocol
-/

namespace Manifold.Liquidity

open Lib Lib.Routine

variable {α : Type} {Φ : Stage → Prop}

def Client (l : Stage) : Prop := l.worker = none ∧ l.attempt.quiet = true

theorem quiet_client : Quiet Client := fun _ h => h.2

def Ask.verb : Ask → Bool
  | .retryFundingStep _ | .cancelAllocation .. | .resolveReview .. | .completeReviewWithoutEvidence ..
  | .abandonGatewayItem .. | .abandonTargetClientValue .. | .bindAndResume .. | .releaseAllocation _
  | .acceptRequest .. => true
  | _ => false

theorem stays_verb {e} (he : e.verb = true) : Stays protocol Client (Job.ask e) := by
  refine stays_ask (fun l hl => Stage.allows_of_quiet hl.2 ?_) fun l r hl _ => ?_
  · cases e <;> first | exact hl.1 | cases he
  · cases e <;> first | exact hl | cases he

theorem stays_requireReason {reason text p} (h : Stays protocol Client p) :
    Stays protocol Client (requireReason reason text p) := by
  unfold requireReason
  split
  · exact stays_pure
  · exact h

/-! ## Funds -/

def Reads (reading : Reading) (l : Stage) : Prop := Client l ∧ l.reading = reading

abbrev Calls (p : Job α) (Φ : Stage → Prop) : Prop := Leaves protocol Client p Φ

theorem obeys_beginBalanceRead :
    Obeys protocol Client (Job.tryAsk (Job.ask .beginBalanceRead))
      (Outcome (fun tick => Reads (.begun tick)) fun _ => Client) := by
  refine Obeys.tryAsk (Obeys.ask (fun l hl => Stage.allows_of_quiet hl.2 trivial) fun l r hl _ => ?_)
  cases r with
  | error e => exact hl
  | ok tick => exact ⟨hl, rfl⟩

theorem obeys_balanceSummary {tick} :
    Obeys protocol (Reads (.begun tick)) (Job.orUnavailable (Job.ask .balanceSummary))
      (Outcome (fun r => Reads (.taken tick r.2)) fun _ => Client) := by
  refine Obeys.bind (R := fun (r : Except String (BitcoinNetwork × Sats)) =>
    Outcome (fun r => Reads (.taken tick r.2)) (fun _ => Client) (r.mapError unavailable))
    (Obeys.ask (fun _ hl => Stage.allows_of_quiet hl.1.2 trivial) fun l r hl _ => ?_)
    fun r => Obeys.ofExcept fun _ hl => hl
  cases r with
  | error e => exact hl.1
  | ok r =>
    have ha : protocol.after l .balanceSummary (.ok r) = { l with reading := .taken tick r.2 } := by
      simp only [protocol, Stage.after, Reading.take, hl.2]
    rw [ha]
    exact ⟨hl.1, rfl⟩

theorem stays_upsertBalance {network spendable tick} :
    Stays protocol (Reads (.taken tick spendable))
      (Job.tryAsk (Job.ask (.upsertWalletBalanceObservation network spendable tick))) :=
  stays_tryAsk (stays_ask (fun _ hl => Stage.allows_of_quiet hl.1.2 hl.2) fun _ _ hl _ => hl)

theorem reads_client {reading} (l : Stage) (h : Reads reading l) : Client l := h.1

theorem stays_readAndStoreBalance : Stays protocol Client readAndStoreBalance :=
  Leaves.bind obeys_beginBalanceRead fun _ => Leaves.bind obeys_balanceSummary fun _ =>
    Leaves.after reads_client stays_upsertBalance fun _ => Obeys.pure reads_client

theorem stays_getFunds : Stays protocol Client getFunds := by
  refine stays_bind (stays_readyConfig quiet_client) fun setup => ?_
  refine Leaves.bind obeys_beginBalanceRead fun _ => Leaves.bind obeys_balanceSummary fun r => ?_
  dsimp only
  split
  · exact Obeys.throw reads_client
  · exact stays_upsertBalance.mono (fun _ h => h) fun _ => reads_client

theorem stays_createDepositAddress {label} : Stays protocol Client (createDepositAddress label) := by
  refine stays_bind (stays_readyConfig quiet_client) fun _ => ?_
  refine stays_bind (stays_neutral quiet_client rfl) fun id => ?_
  refine stays_bind (stays_orUnavailable (stays_query quiet_client _)) fun address => ?_
  exact stays_tryAsk (stays_ask (fun l hl => Stage.allows_of_quiet hl.2
    ⟨hl.1, rfl, rfl, rfl, rfl, rfl, rfl⟩) fun _ _ hl _ => hl)

theorem stays_existingWithdrawalResponse {request feeRate existing} :
    Stays protocol Client (existingWithdrawalResponse request feeRate existing) := by
  unfold existingWithdrawalResponse
  split
  · exact stays_throw
  · exact stays_tryAsk (stays_neutral quiet_client rfl)

def Withdraws (attempt : Attempt) (l : Stage) : Prop := l.worker = none ∧ l.attempt = attempt

theorem calls_settleWithdrawal {p : PreparedWithdrawal} (response : SubmitResult) :
    Calls (settleWithdrawal p.operationId response) (fun l =>
      match response with
      | .failed _ => Withdraws (.unsent p.operationId) l
      | _ => Withdraws .none l) := by
  have hc : ∀ l, Withdraws .none l → Client l := fun l hl => ⟨hl.1, by rw [hl.2]; rfl⟩
  have hu : ∀ l, Withdraws (.unsent p.operationId) l → Client l := fun l hl => ⟨hl.1, by rw [hl.2]; rfl⟩
  have hq : Quiet (Withdraws .none) := fun l hl => (hc l hl).2
  cases response with
  | submitted txid => exact (stays_markWithdrawalBroadcast hq).mono (fun _ h => h) fun _ => hc
  | failed detail => exact (stays_markOperationFailed fun l hl => hl.2).mono (fun _ h => h) fun _ => hu
  | inDoubt detail => exact (stays_markOperationInDoubt hq).mono (fun _ h => h) fun _ => hc

theorem calls_submitWithdrawal {p} :
    Calls (submitPreparedWithdrawal p >>= settleWithdrawal p.operationId) (Withdraws (.fenced p)) := by
  refine Leaves.bind (R := fun response l =>
    match response with
    | .failed _ => Withdraws (.unsent p.operationId) l
    | _ => Withdraws .none l) ?_ calls_settleWithdrawal
  refine Obeys.bind (R := fun _ => Withdraws (.left p)) (Obeys.ask ?_ ?_) fun _ => Obeys.ask ?_ ?_
  · intro l hl
    simp only [protocol, Stage.allows, hl.2]
  · intro l r hl _
    exact ⟨hl.1, rfl⟩
  · intro l hl
    simp only [protocol, Stage.allows, hl.2]
  · intro l r hl _
    cases r <;> exact ⟨hl.1, rfl⟩

def PreparedOr (p : PreparedWithdrawal) : Except String Unit → Stage → Prop
  | .ok _, l => Withdraws (.prepared p) l
  | .error _, l => Client l

def AdmittedOr (p : PreparedWithdrawal) : Db.WithdrawalAdmission → Stage → Prop
  | .inserted, l => Withdraws (.fenced p) l
  | .existing _, l => Client l

theorem calls_admitAndSubmit {setup request feeRate} (hr : 0 < request.amount) :
    Stays protocol Client (admitAndSubmit setup request feeRate) := by
  refine stays_bind stays_readAndStoreBalance fun spendable => ?_
  refine stays_bind (stays_neutral quiet_client rfl) fun id => ?_
  let p : PreparedWithdrawal := ⟨id, request.address, request.amount, feeRate⟩
  refine Leaves.bind (R := PreparedOr p) (Obeys.ask ?_ ?_) fun r => ?_
  · intro l hl
    exact Stage.allows_of_quiet hl.2 (.inl hl.1)
  · intro l r hl _
    cases r with
    | ok u => exact ⟨hl.1, rfl⟩
    | error e =>
      have ha : protocol.after l (.prepareWithdrawal p) (.error e) = { l with attempt := .none } := by
        simp [protocol, Stage.after, preparedAttempt, hl.1]
      rw [ha]
      exact ⟨hl.1, rfl⟩
  cases r with
  | error e => exact Obeys.throw fun _ h => h
  | ok u =>
    refine Leaves.bind (R := AdmittedOr p) (Obeys.tryAsk (Obeys.ask ?_ ?_)) fun admission => ?_
    · intro l hl
      exact Stage.allows_of_quiet (by rw [hl.2]; rfl) ⟨hl.1, hr, p, hl.2, rfl, rfl, rfl⟩
    · intro l r hl _
      have ha : protocol.after l (.admitWithdrawal setup request feeRate id spendable) r =
          { l with attempt := if admitted r then .fenced p else .none } := by
        simp only [protocol, Stage.after, Attempt.fence, hl.2]
      rw [ha]
      rcases r with e | (r | _)
      · exact ⟨hl.1, rfl⟩
      · exact ⟨hl.1, rfl⟩
      · exact ⟨hl.1, rfl⟩
    · cases admission with
      | existing r => exact stays_existingWithdrawalResponse
      | inserted => exact calls_submitWithdrawal

theorem stays_requestWithdrawal {request} : Stays protocol Client (requestWithdrawal request) := by
  refine stays_bind (stays_readyConfig quiet_client) fun setup => ?_
  dsimp only
  split
  · exact stays_throw
  split
  · exact stays_throw
  rename_i hz
  split
  · exact stays_throw
  refine stays_bind (stays_tryAsk (stays_neutral quiet_client rfl)) fun existing => ?_
  split
  · exact stays_existingWithdrawalResponse
  · exact calls_admitAndSubmit (Nat.pos_of_ne_zero hz)

/-! ## Reconciliation -/

theorem stays_syncOperation {setup r} : Stays protocol Client (syncOperation setup r) := by
  refine stays_bind ?_ fun evidence => stays_bind ?_ fun resolved => ?_
  · unfold evidenceForOperation
    split
    · exact stays_orUnavailable (stays_query quiet_client _)
    · split
      · exact stays_map (stays_orUnavailable (stays_query quiet_client _))
      · exact stays_pure
  · unfold claimEvidence
    split
    · exact stays_pure
    · refine stays_bind (stays_tryAsk (stays_neutral quiet_client rfl)) fun claim => ?_
      cases claim <;> exact stays_pure
  · split
    · exact stays_bind (stays_tryAsk (stays_neutral quiet_client rfl)) fun _ => stays_pure
    · exact stays_pure

theorem stays_syncOperations {setup} (rows : List WalletOperation) :
    Stays protocol Client (syncOperations setup rows) := by
  induction rows with
  | nil => exact stays_pure
  | cons r rows ih =>
    unfold syncOperations
    split
    · exact ih
    · exact stays_bind stays_syncOperation fun _ => ih

theorem stays_syncWalletOperations : Stays protocol Client syncWalletOperations :=
  stays_bind (stays_readyConfig quiet_client) fun _ => stays_bind stays_readAndStoreBalance fun _ =>
    stays_bind (stays_tryAsk (stays_neutral quiet_client rfl)) fun _ => stays_syncOperations _

/-! ## Operator verbs -/

theorem stays_resolveManualReview {request} : Stays protocol Client (resolveManualReview request) := by
  refine stays_bind ?_ fun gap => ?_
  · unfold completedResolutionLacksChainEvidence
    split
    · split
      · exact stays_pure
      refine stays_bind (stays_tolerate (stays_tryAsk (stays_neutral quiet_client rfl))) fun r => ?_
      split
      · exact stays_pure
      unfold settlementGap
      split
      · exact stays_pure
      refine stays_bind (stays_query quiet_client _) fun configured => ?_
      split
      · refine stays_bind (stays_query quiet_client _) fun answer => ?_
        split
        · exact stays_pure
        · exact stays_pure
        · split <;> exact stays_pure
      · exact stays_pure
    · exact stays_pure
  split
  · exact stays_pure
  unfold applyResolution
  split
  · exact stays_pure
  · exact stays_tryAsk (stays_verb rfl)

theorem stays_abandonGatewayItem {federationId reason} :
    Stays protocol Client (abandonGatewayItem federationId reason) := by
  refine stays_requireReason (stays_bind (stays_tryAsk (stays_neutral quiet_client rfl)) fun row => ?_)
  split
  · exact stays_pure
  refine stays_bind stays_ofExcept fun step => ?_
  unfold abandonOverdue
  split
  · exact stays_pure
  · split
    · exact stays_pure
    · exact stays_tryAsk (stays_verb rfl)

theorem stays_abandonTargetClientValue {federationId reason} :
    Stays protocol Client (abandonTargetClientValue federationId reason) := by
  refine stays_requireReason (stays_bind (stays_tryAsk (stays_neutral quiet_client rfl)) fun row => ?_)
  split
  · exact stays_pure
  dsimp only
  split
  · exact stays_pure
  · split
    · exact stays_pure
    · exact stays_tryAsk (stays_verb rfl)

theorem stays_bindKnownDeposit {row target step operationId} :
    Stays protocol Client (bindKnownDeposit row target step operationId) := by
  refine stays_bind (stays_orUnavailable (stays_query quiet_client _)) fun known => ?_
  split
  · exact stays_pure
  split
  · exact stays_pure
  unfold bindAndResume
  dsimp only
  split
  · exact stays_bind (stays_tryAsk (stays_verb rfl)) fun _ => stays_pure
  · exact stays_throw

theorem stays_bindTargetDeposit {parse federationId operationId} :
    Stays protocol Client (bindTargetDeposit parse federationId operationId) := by
  refine stays_bind (stays_tryAsk (stays_neutral quiet_client rfl)) fun row => ?_
  split
  · exact stays_pure
  dsimp only
  split
  · exact stays_pure
  split
  · exact stays_pure
  split
  · exact stays_pure
  · split
    · exact stays_bindKnownDeposit
    · exact stays_throw

/-! ## Acceptance -/

theorem stays_respondFromExistingAllocation {request disclosure} :
    Stays protocol Client (respondFromExistingAllocation request disclosure) :=
  stays_bind (stays_tryAsk (stays_neutral quiet_client rfl)) fun _ => stays_pure

theorem stays_acceptVerified {setup config request} : Stays protocol Client (acceptVerified setup config request) := by
  refine stays_bind (stays_tryAsk (stays_verb rfl)) fun acceptance => ?_
  cases acceptance with
  | conflict =>
    refine stays_bind stays_respondFromExistingAllocation fun answer => ?_
    split
    · exact stays_pure
    · exact stays_throw
  | _ => exact stays_pure

theorem stays_requestLiquidity {prevalidate request} :
    Stays protocol Client (requestLiquidity prevalidate request) := by
  refine stays_bind (stays_tryAsk (stays_neutral quiet_client rfl)) fun setup => ?_
  refine stays_bind stays_respondFromExistingAllocation fun answer => ?_
  split
  · exact stays_pure
  split
  · exact stays_pure
  · exact stays_throw
  refine stays_bind (stays_query quiet_client _) fun verified => ?_
  split
  · exact stays_pure
  refine stays_bind (stays_query quiet_client _) fun opened => ?_
  split
  · exact stays_acceptVerified
  · exact stays_throw

theorem follows_job (env : Env) (call : Call) :
    (call.job env ()).Follows protocol { worker := call.worker } fun l _ => protocol.ends l := by
  have hclient : ∀ {α : Type} {p : Job α}, Stays protocol Client p →
      (p.void ()).Follows protocol { worker := none } fun l _ => protocol.ends l := fun h =>
    (stays_bind h (fun _ => stays_pure) { worker := none } ⟨rfl, rfl⟩ ()).mono fun _ _ hl => hl.2
  have hclient' : ∀ {p : Job Unit}, Stays protocol Client p →
      (p ()).Follows protocol { worker := none } fun l _ => protocol.ends l := fun h =>
    (h { worker := none } ⟨rfl, rfl⟩ ()).mono fun _ _ hl => hl.2
  cases call with
  | gatewayPass => exact (over_processGatewayAllocations _ rfl ()).mono fun _ _ hl => hl.quiet
  | stabilityPass => exact follows_stabilityPass.1
  | gatewayObservation => exact hclient' (stays_observeConfiguredGateway quiet_client)
  | sync => exact hclient' stays_syncWalletOperations
  | getFunds => exact hclient' stays_getFunds
  | createDepositAddress label => exact hclient' stays_createDepositAddress
  | requestWithdrawal request => exact hclient stays_requestWithdrawal
  | retryFundingStep | cancelAllocation => exact hclient (stays_tryAsk (stays_verb rfl))
  | releaseAllocation federationId reason =>
    exact hclient (stays_requireReason (stays_map (stays_tryAsk (stays_verb rfl))))
  | resolveManualReview request => exact hclient stays_resolveManualReview
  | completeReviewWithoutEvidence id txid reason =>
    exact hclient (stays_requireReason (stays_requireReason (stays_tryAsk (stays_verb rfl))))
  | abandonGatewayItem federationId reason => exact hclient stays_abandonGatewayItem
  | abandonTargetClientValue federationId reason => exact hclient stays_abandonTargetClientValue
  | bindTargetDeposit federationId operationId => exact hclient stays_bindTargetDeposit
  | requestLiquidity request => exact hclient stays_requestLiquidity

end Manifold.Liquidity
