import Manifold.Liquidity.Gateway

/-!
# The stability-pool worker

`stability_allocation.rs`. A call that only reads may be cut by the time budget.
-/

namespace Manifold.Liquidity

open Lib (Routine)
open Job

structure StabilityItem where
  itemId : ItemId
  federationId : FederationId
  target : FundingTarget
  committedAmount : Sats
  reservedAmount : Sats
  step : StabilityStep
  corruptStepJson : Option String

def stabilityItemOfRow (row : AllocationItem × FundingTarget) : StabilityItem where
  itemId := row.1.itemId
  federationId := row.1.federationId
  target := row.2
  committedAmount := row.1.committedAmount
  reservedAmount := row.1.reservedAmount
  step := (StepJson.readStability row.1.step).1
  corruptStepJson := (StepJson.readStability row.1.step).2

def activeStabilityPoolItems : Job (List StabilityItem) := do
  let rows ← tryAsk (ask (.activeItems .stabilityPool))
  return rows.map stabilityItemOfRow

def stabilityFundingStep (item : StabilityItem) : FundingStep where
  kind := .stabilityPool
  federationId := item.federationId
  itemId := item.itemId
  address := item.step.pegInAddress
  amount := item.reservedAmount

def saveStabilityStep (item : StabilityItem) : Job Unit :=
  tryAsk (ask (.updateItemStep item.itemId (.stability item.step)))

def committedDepositAmount (committed claimed walletBalance : Sats) : Sats :=
  if claimed < committed || walletBalance < committed then 0 else committed

def budgetIsSpent : Job Bool := query .budgetSpent

/-! ## The provider deposit -/

def completeStabilityPoolItem (item : StabilityItem) (fulfilled : Sats) : Job Bool := do
  let now : Timestamp ← query .now
  tryAsk (ask (.completeItem item.itemId .stabilityPool fulfilled
    (.stabilityPool fulfilled (item.step.observedProvidedAmount.getD 0) now item.step.pegInOperationId
      item.step.spDepositOperationId)))

/-- The provider's report, written into the step. The row of `stability_pool_observations` is left out:
only the admin pages read it. -/
def observeStabilityPool (item : StabilityItem) : Job (StabilityItem × Sats) := do
  let provided ← orUnavailable (query (.report item.target))
  let item := { item with step := { item.step with observedProvidedAmount := some provided } }
  saveStabilityStep item
  return (item, provided)

def observeDepositProgress (item : StabilityItem) (operationId : String) (status : SpDepositStatus) : Job Bool := do
  let (step, changed) := item.step.advanceSpDepositStatus operationId status
  if changed then do
    saveStabilityStep { item with step := step }
    pure true
  else pure true

def requireDepositAmount (item : StabilityItem) : Job Sats :=
  match item.step.spDepositAmount with
  | some amount => pure amount
  | none => throw (internalError "missing stability-pool deposit amount")

def settleDeposit (item : StabilityItem) (operationId : String) : Job Bool := do
  let item := { item with step := (item.step.advanceSpDepositStatus operationId .success).1 }
  saveStabilityStep item
  let fulfilled ← requireDepositAmount item
  let (item, provided) ← observeStabilityPool item
  if provided < fulfilled then do
    saveStabilityStep item
    pure true
  else completeStabilityPoolItem item fulfilled

def observeStabilityDeposit (item : StabilityItem) (operationId : String) : Job Bool := do
  match ← orUnavailable (query (.observeDeposit item.target operationId)) with
  | .initiated => observeDepositProgress item operationId .initiated
  | .txAccepted => observeDepositProgress item operationId .txAccepted
  | .success => settleDeposit item operationId
  | .failed reason => do
      requireItemAction item.itemId .stabilityPoolFailed reason
      pure true

/-- The `submitting` marker, the operation id and the request are committed before anything is sent. -/
def beginDeposit (setup : SetupConfig) (item : StabilityItem) (claimed : Sats) :
    Job (Phase (StabilityItem × Bool)) := do
  let walletBalance ← orUnavailable (query (.targetWalletBalance item.target))
  let amount := committedDepositAmount item.committedAmount claimed walletBalance
  if amount = 0 then
    stopForAction item.itemId .stabilityPoolFailed
      "target client holds less spendable e-cash than this item committed; reconcile the target client before resuming"
  else do
    let operationId : String ← query .freshDepositOperationId
    let step := item.step.beginSubmission ⟨operationId, amount, setup.stabilityPoolMinFeeRatePpb⟩
    if ← tryAsk (ask (.compareAndSetItemStep item.itemId (.stability item.step) (.stability step))) then
      pure (.go ({ item with step := step }, true))
    else pure (.stop false)

def requireSubmission (parse : String → Bool) (step : StabilityStep) : Job StabilityDepositSubmission :=
  match step.submittingSubmission parse with
  | .error detail => throw (internalError detail)
  | .ok none => throw (internalError "stability deposit is not marked submitting")
  | .ok (some submission) => pure submission

def u64Bound : Nat := 2 ^ 64

def recordReceipt (item : StabilityItem) (submission : StabilityDepositSubmission)
    (receipt : SubmissionReceipt) : Job Bool := do
  if receipt = .conflicting then do
    requireItemAction item.itemId .stabilityPoolFailed
      "operation ID exists with a conflicting receipt; reconcile the target client"
    pure true
  else do
    saveStabilityStep
      { item with step := (item.step.advanceSpDepositStatus submission.operationId .initiated).1 }
    pure true

/-- The last compare-and-set before the call is the fence: the step must still be the one acted on. -/
def submitDeposit (item : StabilityItem) (began : Bool) (submission : StabilityDepositSubmission) : Job Bool := do
  if ← budgetIsSpent then pure began
  else do
    if ← tryAsk (ask (.compareAndSetItemStep item.itemId (.stability item.step) (.stability item.step))) then do
      let receipt ← orUnavailable (ask (.submitDepositToProvide item.itemId submission))
      recordReceipt item submission receipt
    else pure began

def sendDeposit (parse : String → Bool) (item : StabilityItem) (began : Bool) : Job Bool := do
  let submission ← requireSubmission parse item.step
  if submission.amount ≠ item.committedAmount || 1000000000 < submission.minFeeRatePpb ||
      u64Bound ≤ submission.amount * 1000 then do
    requireItemAction item.itemId .stabilityPoolFailed
      "persisted stability-pool submission parameters are invalid; reconcile the target client"
    pure true
  else submitDeposit item began submission

def advanceStabilityDeposit (parse : String → Bool) (setup : SetupConfig) (item : StabilityItem)
    (claimed : Sats) : Job Bool :=
  if item.step.spDepositStatus = some .submitting then sendDeposit parse item false
  else
    match item.step.spDepositOperationId with
    | some operationId =>
      if parse operationId then observeStabilityDeposit item operationId
      else throw (internalError "malformed operation id")
    | none => Job.andPhase (beginDeposit setup item claimed) (fun (item, began) => sendDeposit parse item began)

/-! ## The peg-in -/

/-- A claimed peg-in is final, so the recorded claim stands. -/
def pegInStatusOf (item : StabilityItem) : Job PegInStatus :=
  match item.step.pegInStatus, item.step.pegInAmount, item.step.pegInOperationId with
  | some .claimed, some amount, some operationId => pure (.claimed amount operationId)
  | _, _, _ =>
    match item.step.pegInAddress with
    | none => throw (internalError "missing stability-pool peg-in address")
    | some address => orUnavailable (query (.observePegIn item.target address))

def advanceAfterWithdrawalCompleted (parse : String → Bool) (setup : SetupConfig) (item : StabilityItem) :
    Job Bool := do
  match ← pegInStatusOf item with
  | .waitingForTransaction => do
      saveStabilityStep { item with step := item.step.setPegInStatus .waitingForTransaction none }
      pure true
  | .confirmed amount => do
      saveStabilityStep { item with step := item.step.setPegInStatus .confirmed (some amount) }
      pure true
  | .claimed amount operationId => do
      let step :=
        { item.step.setPegInStatus .claimed (some amount) with pegInOperationId := some operationId }
      let item := { item with step := step }
      saveStabilityStep item
      advanceStabilityDeposit parse setup item amount
  | .failed reason => do
      requireItemAction item.itemId .stabilityPoolFailed reason
      pure true

/-! ## One item -/

/-- A step that cannot be read back is left for an operator. -/
def checkPersistedStep (parse : String → Bool) (item : StabilityItem) : Job (Phase Unit) :=
  if item.corruptStepJson.isSome then
    stopForAction item.itemId .stabilityPoolFailed
      "persisted stability-pool step JSON is unreadable; raw state retained for operator reconciliation"
  else if item.step.spDepositOperationId.any (fun id => !parse id) then
    stopForAction item.itemId .stabilityPoolFailed
      "persisted stability-pool operation ID is malformed; reconcile the target client"
  else
    match item.step.submittingSubmission parse with
    | .error detail =>
      stopForAction item.itemId .stabilityPoolFailed
        (detail ++ "; reconcile the target client and provider account")
    | .ok _ => pure (.go ())

def openTargetClient (item : StabilityItem) : Job (StabilityItem × Bool) :=
  if item.step.targetClientOpenedAt.isSome then pure (item, false)
  else do
    orUnavailable (query (.ensureClient item.target))
    let now : Timestamp ← query .now
    let item := { item with step := { item.step with targetClientOpenedAt := some now } }
    saveStabilityStep item
    pure (item, true)

/-- A phase boundary: a spent budget ends the turn with what is durable. -/
def atPhaseBoundary (advanced : Bool) : Job (Phase Unit) := do
  if ← budgetIsSpent then pure (.stop advanced) else pure (.go ())

def refuseTarget {α : Type} (item : StabilityItem) (reason : String) : Job (Phase α) := do
  failItem item.itemId .stabilityPoolFailed ("stability-pool target cannot be funded: " ++ reason)
  pure (.stop true)

def checkTarget (item : StabilityItem) : Job (Phase Unit) := do
  match ← orUnavailable (query (.checkTarget item.target)) with
  | .usable => pure (.go ())
  | .unusable reason => refuseTarget item reason

def savePegInAddress (validAddress : BitcoinNetwork → String → Except String Unit) (setup : SetupConfig)
    (item : StabilityItem) (address : String) : Job (Phase (StabilityItem × Bool)) := do
  Routine.ofExcept ((validAddress setup.network address).mapError invalidArgument)
  let item :=
    { item with
      step := { item.step with pegInAddress := some address, pegInStatus := some .waitingForTransaction } }
  saveStabilityStep item
  pure (.go (item, true))

def mintPegInAddress (validAddress : BitcoinNetwork → String → Except String Unit) (setup : SetupConfig)
    (item : StabilityItem) (advanced : Bool) : Job (Phase (StabilityItem × Bool)) := do
  match ← atPhaseBoundary advanced with
  | .stop advanced => pure (.stop advanced)
  | .go () => do
      match ← orUnavailable (query (.allocatePegInAddress item.target)) with
      | .unusable reason => refuseTarget item reason
      | .allocated address => savePegInAddress validAddress setup item address

def ensurePegInAddress (validAddress : BitcoinNetwork → String → Except String Unit) (setup : SetupConfig)
    (item : StabilityItem) (advanced : Bool) : Job (Phase (StabilityItem × Bool)) :=
  if item.step.pegInAddress.isSome then pure (.go (item, advanced))
  else mintPegInAddress validAddress setup item advanced

def saveStabilityOperation (item : StabilityItem) (r : WalletOperation) : Job StabilityItem :=
  if item.step.walletOperationId == some r.operationId then pure item
  else do
    let item := { item with step := { item.step with walletOperationId := some r.operationId } }
    saveStabilityStep item
    pure item

def advanceStabilityOperation (parse : String → Bool) (setup : SetupConfig) (item : StabilityItem)
    (advanced : Bool) (r : WalletOperation) : Job Bool :=
  match r.status with
  | .pending => do
      submitFundingWithdrawal setup (stabilityFundingStep item) r.operationId
      pure true
  | .broadcast | .confirmed | .inDoubt | .manualReviewRequired => pure advanced
  | .failed => do
      requireItemAction item.itemId .withdrawFailed "stability-pool funding wallet operation failed"
      pure true
  | .cancelled => do
      failItem item.itemId .withdrawFailed
        "stability-pool funding wallet operation was cancelled while item was active"
      pure true
  | .completed => advanceAfterWithdrawalCompleted parse setup item

def fundStabilityItem (parse : String → Bool) (setup : SetupConfig) (item : StabilityItem)
    (advanced : Bool) : Job Bool := do
  match ← ensureWalletOperation setup (stabilityFundingStep item) with
  | none => pure false
  | some r => do
      let item ← saveStabilityOperation item r
      advanceStabilityOperation parse setup item advanced r

def advanceStabilityItem (parse : String → Bool)
    (validAddress : BitcoinNetwork → String → Except String Unit) (setup : SetupConfig)
    (item : StabilityItem) : Job Bool := do
  let (item, advanced) ← openTargetClient item
  Job.andPhase (atPhaseBoundary advanced) (fun _ =>
    Job.andPhase (checkTarget item) (fun _ =>
      Job.andPhase (ensurePegInAddress validAddress setup item advanced) (fun (item, advanced) =>
        Job.andPhase (atPhaseBoundary advanced) (fun _ => fundStabilityItem parse setup item advanced))))

def processStabilityPoolItem (parse : String → Bool)
    (validAddress : BitcoinNetwork → String → Except String Unit) (setup : SetupConfig)
    (item : StabilityItem) : Job Bool :=
  Job.andPhase (checkPersistedStep parse item) (fun _ =>
    markRunningThen item.itemId (advanceStabilityItem parse validAddress setup item))

def processStabilityItems (parse : String → Bool)
    (validAddress : BitcoinNetwork → String → Except String Unit) (setup : SetupConfig) :
    List StabilityItem → Job Unit
  | [] => pure ()
  | item :: rest => do
      let _ ← tolerate (processStabilityPoolItem parse validAddress setup item)
      processStabilityItems parse validAddress setup rest

def processStabilityPoolAllocations (parse : String → Bool)
    (validAddress : BitcoinNetwork → String → Except String Unit) : Job Unit := do
  let setup ← readyConfig
  let items ← activeStabilityPoolItems
  processStabilityItems parse validAddress setup items

end Manifold.Liquidity
