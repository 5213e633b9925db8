import Manifold.Liquidity.Stability

/-!
# Admin and public calls

`funds_admin.rs`, `manual_ops.rs`, `target_recovery.rs` and the acceptance path of `public.rs`.
-/

namespace Manifold.Liquidity

open Lib (Routine)
open Job

/-! ## Funds -/

def readAndStoreBalance : Job Sats := do
  let readAt ← tryAsk (ask .beginBalanceRead)
  let (network, spendable) ← orUnavailable (ask .balanceSummary)
  tryAsk (ask (.upsertWalletBalanceObservation network spendable readAt))
  return spendable

def getFunds : Job Unit := do
  let setup ← readyConfig
  let readAt ← tryAsk (ask .beginBalanceRead)
  let (network, spendable) ← orUnavailable (ask .balanceSummary)
  if network ≠ setup.network then
    throw (failedPrecondition ("gatewayd wallet network " ++ networkDisplay network ++
      " does not match configured network " ++ networkDisplay setup.network))
  else tryAsk (ask (.upsertWalletBalanceObservation network spendable readAt))

def newDeposit (id : OperationId) (address : String) (label : Option String) : WalletOperation where
  operationId := id
  operationType := .deposit
  status := .pending
  amount := 0
  address := some address
  label := label
  updatedAt := 0

def createDepositAddress (label : Option String) : Job Unit := do
  let _ ← readyConfig
  let id : OperationId ← ask (.nextWalletOperationId "deposit")
  let address ← orUnavailable (query .allocateDepositAddress)
  tryAsk (ask (.insertWalletOperation (newDeposit id address label)))

/-- A repeated intent is answered by its operation if the terms are the same. -/
def existingWithdrawalResponse (request : Db.WithdrawalRequest) (feeRate : Nat) (existing : WalletOperation) :
    Job WalletOperation :=
  if existing.address ≠ some request.address || existing.amount ≠ request.amount ||
      existing.feeRateSatPerVbyte ≠ some feeRate then
    throw (failedPrecondition "withdrawal_intent_id is already bound to different request parameters")
  else tryAsk (ask (.getWalletOperation existing.operationId))

def settleWithdrawal (id : OperationId) : SubmitResult → Job WalletOperation
  | .submitted txid => markWithdrawalBroadcast id txid
  | .inDoubt detail => markOperationInDoubt id detail
  | .failed detail => markOperationFailed id detail

def submitAdmitted (request : Db.WithdrawalRequest) (feeRate : Nat) (p : PreparedWithdrawal) :
    Db.WithdrawalAdmission → Job WalletOperation
  | .existing r => existingWithdrawalResponse request feeRate r
  | .inserted => do
      let response ← submitPreparedWithdrawal p
      settleWithdrawal p.operationId response

def admitAndSubmit (setup : SetupConfig) (request : Db.WithdrawalRequest) (feeRate : Nat) : Job WalletOperation := do
  let spendable ← readAndStoreBalance
  let id : OperationId ← ask (.nextWalletOperationId "withdrawal")
  let p : PreparedWithdrawal := ⟨id, request.address, request.amount, feeRate⟩
  match ← ask (.prepareWithdrawal p) with
  | .error error => throw (invalidArgument error)
  | .ok () => do
      let admission ← tryAsk (ask (.admitWithdrawal setup request feeRate id spendable))
      submitAdmitted request feeRate p admission

def withdrawWithFee (setup : SetupConfig) (request : Db.WithdrawalRequest) (feeRate : Nat) : Job WalletOperation := do
  match ← tryAsk (ask (.operationForIntent request.withdrawalIntentId)) with
  | some existing => existingWithdrawalResponse request feeRate existing
  | none => admitAndSubmit setup request feeRate

def requestWithdrawal (request : Db.WithdrawalRequest) : Job WalletOperation := do
  let setup ← readyConfig
  let feeRate := request.feeRateSatPerVbyte.getD (defaultFeeRateSatPerVbyte setup.network)
  if request.withdrawalIntentId.isEmpty then
    throw (invalidArgument "withdrawal_intent_id must not be empty")
  else if request.amount = 0 then throw (invalidArgument "withdrawal amount must be greater than zero")
  else if feeRate = 0 then throw (invalidArgument "fee_rate_sat_per_vbyte must be greater than zero")
  else withdrawWithFee setup request feeRate

/-! ## Reconciliation with the chain -/

def evidenceForOperation (r : WalletOperation) : Job (Option (List ChainOutputEvidence)) :=
  match r.txid with
  | some txid => orUnavailable (query (.txEvidence txid))
  | none =>
    match (if r.status = .pending || r.status = .inDoubt then r.address else none) with
    | some address => some <$> orUnavailable (query (.addressEvidence address))
    | none => pure none

def claimEvidence (setup : SetupConfig) (r : WalletOperation) : Option (List ChainOutputEvidence) → Job Bool
  | none => pure false
  | some outputs => do
      match ← tryAsk (ask (.claimChainEvidence r.operationId outputs setup.confirmations)) with
      | .applied _ => pure true
      | .noMatch | .ambiguous _ => pure false

/-- Without evidence a send that stays in doubt goes to an operator after the configured time. -/
def syncOperation (setup : SetupConfig) (r : WalletOperation) : Job Unit := do
  let evidence ← evidenceForOperation r
  let resolved ← claimEvidence setup r evidence
  if !resolved && r.status = .inDoubt then do
    let _ ← tryAsk (ask (.escalateInDoubt r.operationId setup.inDoubtReviewAfterSecs))
    pure ()
  else pure ()

def syncOperations (setup : SetupConfig) : List WalletOperation → Job Unit
  | [] => pure ()
  | r :: rest =>
    if r.status = .manualReviewRequired then syncOperations setup rest
    else do
      syncOperation setup r
      syncOperations setup rest

def syncWalletOperations : Job Unit := do
  let setup ← readyConfig
  let _ ← readAndStoreBalance
  let operations ← tryAsk (ask .activeWalletOperations)
  syncOperations setup operations

/-! ## Operator verbs -/

/-- `str::trim` leaves nothing. -/
def blank (s : String) : Bool :=
  s.toList.all fun c => c.toNat ∈ [32, 133, 160, 5760, 8232, 8233, 8239, 8287, 12288] ||
    9 ≤ c.toNat && c.toNat ≤ 13 || 8192 ≤ c.toNat && c.toNat ≤ 8202

def refused (status : ManualOperationStatus) (detail : String) : Job ManualAnswer := pure ⟨status, detail⟩

def requireReason (reason : String) (text : String) (p : Job ManualAnswer) : Job ManualAnswer :=
  if blank reason then refused .rejected text else p

def retryFundingStep (request : Db.RetryRequest) : Job ManualAnswer := tryAsk (ask (.retryFundingStep request))

def cancelAllocation (federationId : FederationId) (reason : Option String) : Job ManualAnswer :=
  tryAsk (ask (.cancelAllocation federationId reason))

def releaseAnswer (federationId : FederationId) (reason : String) : Db.ReleaseOutcome → ManualAnswer
  | .released _ =>
    ⟨.accepted, "released the allocation binding for federation " ++ federationId ++
      "; the federation can be requested again by any verified requester. Reason: " ++ reason⟩
  | .notFound => ⟨.notFound, "no allocation for this federation"⟩
  | .held h =>
    ⟨.rejected, "allocation still holds work or value and cannot be released: " ++
      toString h.reservingItems ++ " reserving item(s), " ++ toString h.pendingOperations ++
      " wallet operation(s) awaiting settlement, " ++ toString h.fulfilledSats ++
      " sat(s) delivered. Resolve or cancel that work first"⟩

def releaseFederationAllocation (federationId : FederationId) (reason : String) : Job ManualAnswer :=
  requireReason reason "releasing a federation allocation requires an operator reason"
    (releaseAnswer federationId reason.trimAscii.toString <$> tryAsk (ask (.releaseAllocation federationId)))

def paysOperation (r : WalletOperation) (outputs : List ChainOutputEvidence) : Bool :=
  outputs.any (fun o => o.address = r.address && o.amountSats = r.amount)

def noEvidenceDetail (reason : String) : String :=
  reason ++ ". A completed resolution requires chain evidence of this operation's exact destination and " ++
    "amount. If you have established the outcome out of band, use complete_review_without_evidence, which " ++
    "records that no evidence existed."

def chainEvidenceGap (r : WalletOperation) (txid : Txid) : Job (Option String) := do
  match ← query (.txEvidence txid) with
  | .error error => pure (some (noEvidenceDetail
      ("the chain observer could not be reached to check transaction " ++ txid ++ ": " ++ error)))
  | .ok none => pure (some (noEvidenceDetail ("the chain observer does not know transaction " ++ txid)))
  | .ok (some outputs) =>
    if paysOperation r outputs then pure none
    else pure (some ("transaction " ++ txid ++ " is on chain and pays no output of " ++ toString r.amount ++
      " sats to this operation's address; resolving it as completed would record a settlement this " ++
      "transaction does not contain"))

def chainObserverConfigured : Job Bool := query .chainObserver

def settlementGap (r : WalletOperation) (txid : Txid) : Job (Option String) :=
  if r.address.isNone then
    pure (some (noEvidenceDetail
      "this operation records no destination address, so no transaction can be checked against it"))
  else do
    if ← chainObserverConfigured then chainEvidenceGap r txid
    else pure (some (noEvidenceDetail ("the chain observer is not configured or its credential could not be " ++
      "read, so the transaction cannot be checked")))

/-- A completed resolution needs exact chain evidence; what is refused downstream passes here. -/
def completedResolutionLacksChainEvidence (request : Db.ResolveRequest) : Job (Option String) :=
  match request.resolution, request.txid with
  | .completed, some txid =>
    if blank txid then pure none
    else do
      match ← tolerate (tryAsk (ask (.getWalletOperation request.operationId))) with
      | .error _ => pure none
      | .ok r => settlementGap r txid.trimAscii.toString
  | _, _ => pure none

def applyResolution (request : Db.ResolveRequest) : Job ManualAnswer :=
  match request.outcome with
  | .error answer => pure answer
  | .ok outcome => tryAsk (ask (.resolveReview request.operationId outcome))

def resolveManualReview (request : Db.ResolveRequest) : Job ManualAnswer := do
  match ← completedResolutionLacksChainEvidence request with
  | some detail => refused .rejected detail
  | none => applyResolution request

def completeReviewWithoutEvidence (id : OperationId) (txid : Txid) (reason : String) : Job ManualAnswer :=
  requireReason reason "completing a reviewed send without evidence requires an operator reason"
    (requireReason txid
      "completing a reviewed send requires the transaction the operator asserts settled it"
      (tryAsk (ask (.completeReviewWithoutEvidence id txid.trimAscii.toString reason.trimAscii.toString))))

def abandonOverdue (row : AllocationItem) (step : GatewayStep) (reason : String) : Job ManualAnswer :=
  if !row.status.reserving then refused .rejected ("allocation item is " ++ row.status.display ++
    " and holds no reservation to release, so there is nothing to write off")
  else if step.attributionOverdueSince.isNone then
    refused .rejected ("this item's gateway attribution is not recorded as overdue, so FLIP is still waiting " ++
      "on evidence within the configured review threshold. A zero threshold records nothing and admits " ++
      "nothing here.")
  else
    tryAsk (ask (.abandonGatewayItem row.itemId step.walletOperationId
      ("operator wrote off " ++ toString row.committedAmount ++ " sats delivered to the gateway; the value " ++
        "is at the gateway and recovering it happens outside FLIP. Reason: " ++ reason)))

def abandonGatewayItem (federationId : FederationId) (reason : String) : Job ManualAnswer :=
  requireReason reason "abandoning a gateway item requires an operator reason" (do
    match ← tryAsk (ask (.itemOf .gateway federationId)) with
    | none => refused .notFound "no gateway allocation item for this federation"
    | some (row, _) => do
        let step ← Routine.ofExcept (StepJson.readGateway row.step)
        abandonOverdue row step reason.trimAscii.toString)

def abandonDetail (amount : Option Sats) (reason : String) : String :=
  "operator abandoned " ++ (amount.elim "value" (fun a => toString a ++ " sats")) ++
    " held by the target federation client; the value remains there and needs recovery outside FLIP. " ++
    "Reason: " ++ reason

def abandonTargetClientValue (federationId : FederationId) (reason : String) : Job ManualAnswer :=
  requireReason reason "abandoning target-client value requires an operator reason" (do
    match ← tryAsk (ask (.itemOf .stabilityPool federationId)) with
    | none => refused .notFound "no stability-pool allocation item for this federation"
    | some (row, _) =>
      let (step, corrupt) := StepJson.readStability row.step
      if row.status ≠ .actionRequired then
        refused .rejected ("allocation item is " ++ row.status.display ++ " and is not awaiting operator action")
      else if corrupt.isNone && step.pegInStatus ≠ some .claimed then
        refused .rejected ("no value has reached the target client for this item; resolve it with " ++
          "retry_funding_step or cancel_allocation instead")
      else
        tryAsk (ask (.abandonTargetClientValue row.itemId (abandonDetail step.pegInAmount
          reason.trimAscii.toString))))

/-- A new operation id starts a new deposit at `initiated`. -/
def bindAndResume (row : AllocationItem) (step : StabilityStep) (operationId : String) : Job ManualAnswer := do
  let bound :=
    { step with
      spDepositAmount := some row.committedAmount
      spDepositMinFeeRatePpb := step.spDepositMinFeeRatePpb.or (some 0) }
  let (next, advanced) := bound.advanceSpDepositStatus operationId .initiated
  if advanced then do
    tryAsk (ask (.bindAndResume row.itemId next))
    refused .accepted "deposit bound; the stability worker will resume observing it"
  else
    throw (failedPrecondition ("this operation id already reached a terminal deposit state for this item; " ++
      "resuming it would discard that observation"))

def bindKnownDeposit (row : AllocationItem) (target : FundingTarget) (step : StabilityStep)
    (operationId : String) : Job ManualAnswer := do
  match ← orUnavailable (query (.getDepositOperation target operationId)) with
  | none => refused .notFound "the target client records no stability-pool deposit with that operation id"
  | some amount =>
    if amount < row.committedAmount then
      refused .rejected ("deposit of " ++ toString amount ++ " sats is below this item's committed " ++
        toString row.committedAmount ++ " sats")
    else bindAndResume row step operationId

def bindTargetDeposit (parse : String → Bool) (federationId : FederationId) (operationId : String) :
    Job ManualAnswer := do
  match ← tryAsk (ask (.itemOf .stabilityPool federationId)) with
  | none => refused .notFound "no stability-pool allocation item for this federation"
  | some (row, target) =>
    let (step, corrupt) := StepJson.readStability row.step
    if row.status ≠ .actionRequired then
      refused .rejected ("allocation item is " ++ row.status.display ++ " and is not awaiting operator action")
    else if corrupt.isSome then
      refused .rejected ("allocation step is unreadable; bind is unsafe, use audited abandon after inspecting " ++
        "the retained raw state")
    else
      match step.spDepositOperationId with
      | some existing =>
        refused (if existing = operationId then .alreadyApplied else .rejected)
          ("allocation item already records deposit operation " ++ existing)
      | none =>
        if parse operationId then bindKnownDeposit row target step operationId
        else throw (invalidArgument "malformed operation id")

/-! ## Acceptance -/

inductive PublicAnswer where
  | repeated (a : Allocation)
  | conflict (reason : String)
  | rejected (code reason : String)
  | accepted (plan : AcceptedPlan)

inductive Disclosure where
  | requesterOnly | verified

def answerExisting (request : LiquidityRequest) (disclosure : Disclosure) (a : Allocation) : Option PublicAnswer :=
  if a.requesterPubkey = request.requesterPubkey then
    if a.detailsPayloadHash = request.detailsPayloadHash then some (.repeated a)
    else
      some (.conflict ("federation " ++ a.federationId ++ " already has an allocation with different request details"))
  else
    match disclosure with
    | .requesterOnly => none
    | .verified => some (.conflict ("federation " ++ a.federationId ++
        " already has an allocation for a different requester"))

def respondFromExistingAllocation (request : LiquidityRequest) (disclosure : Disclosure) :
    Job (Option PublicAnswer) := do
  let row ← tryAsk (ask (.allocation request.target.federationId))
  return row.bind (answerExisting request disclosure)

def respondToConflict (request : LiquidityRequest) : Job PublicAnswer := do
  match ← respondFromExistingAllocation request .verified with
  | some answer => pure answer
  | none => throw (internalError "allocation insert was ignored but no allocation exists")

def acceptVerified (setup : StoredSetup) (config : SetupConfig) (request : LiquidityRequest) : Job PublicAnswer := do
  match ← tryAsk (ask (.acceptRequest config setup.revision request)) with
  | .setupChanged => pure (.rejected "provider_unavailable"
      "provider setup changed while this request was being verified; request again against the current terms")
  | .expired => pure (.rejected "request_expired" "request expired while its trust material was being verified")
  | .insufficientCapacity => pure (.rejected "insufficient_capacity"
      "wallet-backed capacity is insufficient for this request")
  | .conflict => respondToConflict request
  | .accepted plan => pure (.accepted plan)

def acceptsNewAllocation : Job Bool := query .acceptsNewAllocation

def acceptIfOpen (setup : StoredSetup) (config : SetupConfig) (request : LiquidityRequest) : Job PublicAnswer := do
  if ← acceptsNewAllocation then acceptVerified setup config request
  else throw (unavailable "new allocation acceptance is closed for live restore")

def acceptOrRejectRequest (prevalidate : StoredSetup → LiquidityRequest → Option (String × String))
    (setup : StoredSetup) (request : LiquidityRequest) : Job PublicAnswer := do
  match ← respondFromExistingAllocation request .requesterOnly with
  | some answer => pure answer
  | none =>
    match prevalidate setup request, setup.config with
    | some (code, reason), _ => pure (.rejected code reason)
    | none, none => throw (internalError "pre-validation passed without setup config")
    | none, some config => do
        match ← query (.verify request) with
        | .error (code, reason) => pure (.rejected code reason)
        | .ok () => acceptIfOpen setup config request

def requestLiquidity (prevalidate : StoredSetup → LiquidityRequest → Option (String × String))
    (request : LiquidityRequest) : Job PublicAnswer := do
  let setup ← tryAsk (ask .loadSetup)
  acceptOrRejectRequest prevalidate setup request

end Manifold.Liquidity
