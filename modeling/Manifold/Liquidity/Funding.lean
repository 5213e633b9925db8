import Manifold.Liquidity.World

/-!
# Funding an item from the provider wallet

`allocation_funding.rs`.
-/

namespace Manifold.Liquidity

open Lib (Routine Task)

abbrev Job := Routine Ans Unit ServiceError

namespace Job

def ask (e : Ask) : Job (Ans e) := Routine.ask e

def query (q : Query) : Job q.Answer := ask (.query q)

def tryAsk {α : Type} (r : Job (ServiceResult α)) : Job α := do
  Routine.ofExcept (← r)

def orUnavailable {α : Type} (r : Job (Except String α)) : Job α := do
  Routine.ofExcept ((← r).mapError unavailable)

def tolerate {α : Type} (p : Job α) : Job (Except ServiceError α) := Routine.attempt p

end Job

/-- A phase of an item's turn ends it, with whether it advanced, or goes on. -/
inductive Phase (α : Type) where
  | stop (advanced : Bool)
  | go (a : α)

def Job.andPhase {α : Type} (p : Job (Phase α)) (f : α → Job Bool) : Job Bool := do
  match ← p with
  | .stop advanced => pure advanced
  | .go a => f a

open Job

/-! ## Items -/

def readyConfig : Job SetupConfig := do
  let stored ← tryAsk (ask .loadSetup)
  match stored.config with
  | none => throw (failedPrecondition "setup config is not configured")
  | some config => if stored.ready then pure config else throw (failedPrecondition "setup is not ready")

/-- A turn goes on only with an item that is still active. -/
def markRunningThen (id : ItemId) (p : Job Bool) : Job Bool := do
  if ← tryAsk (ask (.markItemRunning id)) then p else pure false

def requireItemAction (id : ItemId) (code : LiquidityFailureCode) (reason : String) : Job Unit :=
  tryAsk (ask (.setItemFailure id .actionRequired ⟨code, some reason⟩))

def failItem (id : ItemId) (code : LiquidityFailureCode) (reason : String) : Job Unit :=
  tryAsk (ask (.setItemFailure id .failed ⟨code, some reason⟩))

def stopForAction {α : Type} (id : ItemId) (code : LiquidityFailureCode) (reason : String) : Job (Phase α) := do
  requireItemAction id code reason
  return .stop true

/-! ## Funding a step -/

structure FundingStep where
  kind : FundingKind
  federationId : FederationId
  itemId : ItemId
  address : Option String
  amount : Sats

def replaceColon (s : String) : String := String.ofList (s.toList.map (fun c => if c = ':' then '-' else c))

namespace FundingStep

variable (step : FundingStep)

def operationId : OperationId := step.kind.operationIdPrefix ++ "-" ++ replaceColon step.itemId

def newOperation (network : BitcoinNetwork) (address : String) : WalletOperation where
  operationId := step.operationId
  operationType := step.kind.operationType
  status := .pending
  amount := step.amount
  address := some address
  label := some (step.kind.labelPrefix ++ " " ++ step.federationId)
  feeRateSatPerVbyte := some (defaultFeeRateSatPerVbyte network)
  federationId := some step.federationId
  itemId := some step.itemId
  updatedAt := 0

def inDoubtFailure : AdminFailure where
  code := "in_doubt"
  message := step.kind.inDoubtDetail
  occurredAt := 0
  federationId := some step.federationId
  itemId := some step.itemId

def requireAddress : Job String :=
  match step.address with
  | some address => pure address
  | none => throw (internalError step.kind.missingAddressMessage)

end FundingStep

def ensureWalletOperation (setup : SetupConfig) (step : FundingStep) : Job (Option WalletOperation) := do
  let address ← step.requireAddress
  match ← tryAsk (ask (.ensureWalletOperation (step.newOperation setup.network address) step.itemId)) with
  | .inactive => pure none
  | .existing r => pure (some r)
  | .created => some <$> tryAsk (ask (.getWalletOperation step.operationId))

/-- `UPDATE`, then the row is read back. -/
def markAndGet (id : OperationId) (mark : Ask) (unit : Ans mark → ServiceResult Unit) : Job WalletOperation := do
  tryAsk (unit <$> ask mark)
  tryAsk (ask (.getWalletOperation id))

def markWithdrawalBroadcast (id : OperationId) (txid : Txid) : Job WalletOperation :=
  markAndGet id (.markWithdrawalBroadcast id txid) (fun r => r)

def markOperationInDoubt (id : OperationId) (detail : String) : Job WalletOperation :=
  markAndGet id (.markOperationInDoubt id detail) (fun r => r)

def markOperationFailed (id : OperationId) (detail : String) : Job WalletOperation :=
  markAndGet id (.markOperationFailed id detail) (fun r => r)

def submitPreparedWithdrawal (p : PreparedWithdrawal) : Job SubmitResult := do
  ask (.submitPrepared p)
  ask (.submitResponse p)

def failFunding (step : FundingStep) (id : OperationId) (detail : String) : Job Unit := do
  let _ ← markOperationFailed id detail
  requireItemAction step.itemId .withdrawFailed detail

def settleFunding (step : FundingStep) (id : OperationId) : SubmitResult → Job Unit
  | .submitted txid => do
      let _ ← markWithdrawalBroadcast id txid
      pure ()
  | .inDoubt detail => do
      let _ ← markOperationInDoubt id detail
      pure ()
  | .failed detail => failFunding step id detail

def submitIfFenced (step : FundingStep) (p : PreparedWithdrawal) (fenced : Bool) : Job Unit :=
  if fenced then do
    let response ← submitPreparedWithdrawal p
    settleFunding step p.operationId response
  else pure ()

def submitFundingWithdrawal (setup : SetupConfig) (step : FundingStep) (id : OperationId) : Job Unit := do
  let address ← step.requireAddress
  let prepared : PreparedWithdrawal :=
    ⟨id, address, step.amount, defaultFeeRateSatPerVbyte setup.network⟩
  match ← ask (.prepareWithdrawal prepared) with
  | .error error => failFunding step id error
  | .ok () => do
      let fenced ← tryAsk (ask (.claimFundingSubmission id step.itemId step.inDoubtFailure))
      submitIfFenced step prepared fenced

end Manifold.Liquidity
