import Manifold.Liquidity.Funding

/-!
# The gateway worker

`gateway_allocation.rs`. An item is processed from the row as it was when the pass began.
-/

namespace Manifold.Liquidity

open Lib (Routine)
open Job

structure GatewayItem where
  itemId : ItemId
  federationId : FederationId
  target : FundingTarget
  committedAmount : Sats
  reservedAmount : Sats
  status : ItemStatus
  step : GatewayStep

def gatewayItemOfRow (row : AllocationItem × FundingTarget) : ServiceResult GatewayItem := do
  let step ← StepJson.readGateway row.1.step
  return {
    itemId := row.1.itemId
    federationId := row.1.federationId
    target := row.2
    committedAmount := row.1.committedAmount
    reservedAmount := row.1.reservedAmount
    status := row.1.status
    step := step }

def activeGatewayItems : Job (List GatewayItem) := do
  let rows ← tryAsk (ask (.activeItems .gateway))
  Routine.ofExcept (rows.mapM gatewayItemOfRow)

def gatewayWithdrawalAmount (item : GatewayItem) : Sats := max item.reservedAmount item.committedAmount

def gatewayFundingStep (item : GatewayItem) : FundingStep where
  kind := .gateway
  federationId := item.federationId
  itemId := item.itemId
  address := item.step.depositAddress
  amount := gatewayWithdrawalAmount item

def saveGatewayStep (item : GatewayItem) : Job Unit :=
  tryAsk (ask (.updateItemStep item.itemId (.gateway item.step)))

def gatewayUnavailableStatus : String := "unavailable"

def noteGatewayCannotAnswer (setup : SetupConfig) : Job Unit := do
  let observation ← tryAsk (ask (.gatewayObservation setup.gatewayId))
  if observation.any (fun o => o.status == gatewayUnavailableStatus) then pure ()
  else do
    let now : Timestamp ← query .now
    tryAsk (ask (.upsertGatewayObservation
      ⟨setup.gatewayId, none, gatewayUnavailableStatus, none, now⟩))

def noteGatewayAnswers (setup : SetupConfig) : Job Unit := do
  let _ ← tryAsk (ask (.gatewayObservation setup.gatewayId))
  pure ()

def readUsableGatewaySnapshot (setup : SetupConfig) : Job (Option GatewaySnapshot) := do
  match ← query .gatewayInfo with
  | .ok snapshot =>
    if snapshot.syncedToChain then do
      noteGatewayAnswers setup
      pure (some snapshot)
    else do
      noteGatewayCannotAnswer setup
      pure none
  | .error _ => do
      noteGatewayCannotAnswer setup
      pure none

def persistFederations (setup : SetupConfig) (now : Timestamp) : List GatewayFederation → Job Unit
  | [] => pure ()
  | f :: rest => do
      tryAsk (ask (.upsertGatewayObservation
        ⟨setup.gatewayId, some f.federationId, "federation_observed", some f.balance, now⟩))
      persistFederations setup now rest

def persistGatewaySnapshot (setup : SetupConfig) (snapshot : GatewaySnapshot) : Job Unit := do
  let now : Timestamp ← query .now
  tryAsk (ask (.upsertGatewayObservation ⟨setup.gatewayId, none, snapshot.state, none, now⟩))
  persistFederations setup now snapshot.federations

def markGatewayConnected (item : GatewayItem) : Job (Phase (GatewayItem × Bool)) := do
  let item := { item with step := { item.step with gatewayConnected := true } }
  saveGatewayStep item
  return .go (item, true)

def connectGateway (item : GatewayItem) : Job (Phase (GatewayItem × Bool)) := do
  match ← query (.checkInviteEndpoints item.target.inviteCode) with
  | .error _ =>
    stopForAction item.itemId .gatewayAttachFailed "the target federation endpoint is not permitted"
  | .ok invite => do
      match ← query (.connectFederation invite) with
      | .error _ =>
        stopForAction item.itemId .gatewayAttachFailed
          "the configured gateway could not attach this federation"
      | .ok federation =>
        if federation.federationId ≠ item.target.federationId then
          stopForAction item.itemId .gatewayAttachFailed
            ("gateway connected to federation " ++ federation.federationId ++ ", expected " ++ item.target.federationId)
        else markGatewayConnected item

def ensureGatewayConnected (snapshot : GatewaySnapshot) (item : GatewayItem) : Job (Phase (GatewayItem × Bool)) :=
  let observed := snapshot.federations.any (fun f => f.federationId == item.target.federationId)
  if item.step.gatewayConnected then pure (.go (item, false))
  else if observed then markGatewayConnected item
  else connectGateway item

def ensureDepositAddress (validAddress : BitcoinNetwork → String → Except String Unit)
    (setup : SetupConfig) (item : GatewayItem) (advanced : Bool) : Job (Phase (GatewayItem × Bool)) :=
  match item.step.depositAddress with
  | some _ => pure (.go (item, advanced))
  | none => do
      match ← query (.depositAddress item.target.federationId) with
      | .error error => stopForAction item.itemId .gatewayAttachFailed error
      | .ok address =>
        match validAddress setup.network address with
        | .error error => stopForAction item.itemId .gatewayAttachFailed error
        | .ok () => do
            let item := { item with step := { item.step with depositAddress := some address } }
            saveGatewayStep item
            pure (.go (item, true))

/-- A wait past the review threshold is marked once; the item stays active. -/
def noteAttributionDelay (setup : SetupConfig) (item : GatewayItem) (r : WalletOperation) : Job Unit :=
  if item.step.attributionOverdueSince.isSome || setup.gatewayClaimReviewAfterSecs == 0 then pure ()
  else do
    let now : Timestamp ← query .now
    if now - r.updatedAt < setup.gatewayClaimReviewAfterSecs then pure ()
    else saveGatewayStep { item with step := { item.step with attributionOverdueSince := some now } }

def recheckGatewayDeposit (item : GatewayItem) : Job Unit :=
  match item.step.depositAddress with
  | none => pure ()
  | some address => orUnavailable (query (.recheckDepositAddress item.target.federationId address))

def recheckAndNoteDelay (setup : SetupConfig) (item : GatewayItem) (r : WalletOperation) : Job Bool := do
  noteAttributionDelay setup item r
  recheckGatewayDeposit item
  return false

def completeClaimed (setup : SetupConfig) (item : GatewayItem) (r : WalletOperation) : Job Bool := do
  let observed ← orUnavailable (query .gatewayInfo)
  match observed.federations.find? (fun f => f.federationId == item.target.federationId) with
  | none => recheckAndNoteDelay setup item r
  | some federation => do
      let now : Timestamp ← query .now
      tryAsk (ask (.upsertGatewayObservation
        ⟨setup.gatewayId, some item.target.federationId, "federation_observed", some federation.balance, now⟩))
      let info ← orUnavailable (query .gatewayInfo)
      let completed : Timestamp ← query .now
      tryAsk (ask (.completeItem item.itemId .gateway item.committedAmount
        (.gateway setup.gatewayId info.gatewayApi item.committedAmount federation.balance completed r.txid
          (some r.operationId))))

def completeIfGatewayFunded (setup : SetupConfig) (item : GatewayItem) (operationId : OperationId) : Job Bool := do
  let r ← tryAsk (ask (.getWalletOperation operationId))
  match r.txid with
  | none => recheckAndNoteDelay setup item r
  | some txid => do
      match ← query (.findDepositClaim item.target.federationId txid r.txVout item.committedAmount) with
      | .error _ => pure false
      | .ok false => recheckAndNoteDelay setup item r
      | .ok true => completeClaimed setup item r

def saveGatewayOperation (item : GatewayItem) (r : WalletOperation) : Job GatewayItem :=
  if item.step.walletOperationId == some r.operationId then pure item
  else do
    let item := { item with step := { item.step with walletOperationId := some r.operationId } }
    saveGatewayStep item
    pure item

def advanceGatewayOperation (setup : SetupConfig) (item : GatewayItem) (advanced : Bool)
    (r : WalletOperation) : Job Bool :=
  match r.status with
  | .pending => do
      submitFundingWithdrawal setup (gatewayFundingStep item) r.operationId
      pure true
  | .broadcast | .confirmed | .inDoubt | .manualReviewRequired => pure advanced
  | .failed => do
      requireItemAction item.itemId .withdrawFailed "gateway funding wallet operation failed"
      pure true
  | .cancelled => do
      failItem item.itemId .withdrawFailed
        "gateway funding wallet operation was cancelled while item was active"
      pure true
  | .completed => completeIfGatewayFunded setup item r.operationId

def fundGatewayItem (setup : SetupConfig) (item : GatewayItem) (advanced : Bool) : Job Bool := do
  match ← ensureWalletOperation setup (gatewayFundingStep item) with
  | none => pure false
  | some r => do
      let item ← saveGatewayOperation item r
      advanceGatewayOperation setup item advanced r

def networkDisplay : BitcoinNetwork → String
  | .bitcoin => "bitcoin"
  | .testnet => "testnet"
  | .signet => "signet"
  | .regtest => "regtest"

def advanceGatewayItem (validAddress : BitcoinNetwork → String → Except String Unit) (setup : SetupConfig)
    (snapshot : GatewaySnapshot) (item : GatewayItem) : Job Bool :=
  if snapshot.network ≠ setup.network then do
    requireItemAction item.itemId .gatewayAttachFailed
      ("gateway network " ++ networkDisplay snapshot.network ++ " does not match configured network " ++
        networkDisplay setup.network)
    pure true
  else
    Job.andPhase (ensureGatewayConnected snapshot item) (fun (item, advanced) =>
      Job.andPhase (ensureDepositAddress validAddress setup item advanced) (fun (item, advanced) =>
        fundGatewayItem setup item advanced))

def processGatewayItem (validAddress : BitcoinNetwork → String → Except String Unit) (setup : SetupConfig)
    (snapshot : GatewaySnapshot) (item : GatewayItem) : Job Bool :=
  markRunningThen item.itemId (advanceGatewayItem validAddress setup snapshot item)

/-- A dependency that cannot answer for one item leaves the others their turn. -/
def processGatewayItems (validAddress : BitcoinNetwork → String → Except String Unit) (setup : SetupConfig)
    (snapshot : GatewaySnapshot) : List GatewayItem → Job Unit
  | [] => pure ()
  | item :: rest => do
      match ← tolerate (processGatewayItem validAddress setup snapshot item) with
      | .ok _ => processGatewayItems validAddress setup snapshot rest
      | .error error =>
        if error.code = .unavailable then processGatewayItems validAddress setup snapshot rest
        else throw error

def processGatewayAllocations (validAddress : BitcoinNetwork → String → Except String Unit) : Job Unit := do
  let setup ← readyConfig
  let items ← activeGatewayItems
  if items.isEmpty then pure ()
  else do
    match ← readUsableGatewaySnapshot setup with
    | none => pure ()
    | some snapshot => do
        persistGatewaySnapshot setup snapshot
        processGatewayItems validAddress setup snapshot items

def observeConfiguredGateway : Job Unit := do
  let setup ← readyConfig
  match ← readUsableGatewaySnapshot setup with
  | none => pure ()
  | some snapshot => persistGatewaySnapshot setup snapshot

end Manifold.Liquidity
