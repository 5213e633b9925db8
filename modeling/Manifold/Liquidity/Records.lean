import Mathlib.Algebra.GroupWithZero.Nat
import Mathlib.Data.List.Basic

/-!
# Records of the liquidity manager
-/

namespace Manifold.Liquidity

abbrev Sats := Nat
abbrev Timestamp := Nat
abbrev FederationId := String
abbrev ItemId := String
abbrev OperationId := String
abbrev Txid := String
abbrev Pubkey := String

inductive BitcoinNetwork where
  | bitcoin | testnet | signet | regtest
deriving DecidableEq

inductive SourceType where
  | gateway | stabilityPool
deriving DecidableEq

def SourceType.display : SourceType → String
  | .gateway => "gateway"
  | .stabilityPool => "stability_pool"

inductive ItemStatus where
  | pending | running | actionRequired | completed | failed | cancelled
deriving DecidableEq

/-- `ACTIVE_ITEM_STATUSES`: the worker still advances the item. -/
def ItemStatus.active : ItemStatus → Bool
  | .pending | .running => true
  | _ => false

/-- `RESERVING_ITEM_STATUSES`: the item still reserves provider capacity. -/
def ItemStatus.reserving : ItemStatus → Bool
  | .pending | .running | .actionRequired => true
  | _ => false

inductive OperationType where
  | deposit | withdrawal | gatewayFunding | stabilityPoolFunding
deriving DecidableEq

def OperationType.outgoing : OperationType → Bool
  | .deposit => false
  | _ => true

inductive OperationStatus where
  | pending | broadcast | confirmed | completed | inDoubt | manualReviewRequired | failed | cancelled
deriving DecidableEq

def OperationStatus.pendingSettlement : OperationStatus → Bool
  | .pending | .broadcast | .confirmed | .inDoubt | .manualReviewRequired => true
  | _ => false

/-- The statuses that the sync and chain-evidence statements name. -/
def OperationStatus.open : OperationStatus → Bool
  | .pending | .inDoubt | .broadcast | .confirmed => true
  | _ => false

def OperationStatus.unsent : OperationStatus → Bool
  | .pending | .inDoubt => true
  | _ => false

inductive ServiceErrorCode where
  | internal | invalidArgument | failedPrecondition | notFound | unavailable
deriving DecidableEq

structure ServiceError where
  code : ServiceErrorCode
  message : String
deriving DecidableEq

abbrev ServiceResult := Except ServiceError

def internalError (message : String) : ServiceError := ⟨.internal, message⟩
def invalidArgument (message : String) : ServiceError := ⟨.invalidArgument, message⟩
def failedPrecondition (message : String) : ServiceError := ⟨.failedPrecondition, message⟩
def notFound (message : String) : ServiceError := ⟨.notFound, message⟩
def unavailable (message : String) : ServiceError := ⟨.unavailable, message⟩

/-! ## Amounts -/

def toI64Sats (amount : Sats) : ServiceResult Sats :=
  if amount < 2 ^ 63 then .ok amount else .error (internalError "sats amount exceeds SQLite i64 range")

def checkedSatsAdd (left right : Sats) : ServiceResult Sats :=
  if left + right < 2 ^ 64 then .ok (left + right) else .error (internalError "sats addition overflow")

def checkedSum (amounts : List Sats) : ServiceResult Sats :=
  if amounts.sum < 2 ^ 64 then .ok amounts.sum else .error (internalError "sats sum overflow")

/-! ## Wallet operations -/

structure AdminFailure where
  code : String
  message : String
  occurredAt : Timestamp
  federationId : Option FederationId := none
  itemId : Option ItemId := none
deriving DecidableEq

structure WalletOperation where
  operationId : OperationId
  operationType : OperationType
  status : OperationStatus
  amount : Sats
  address : Option String
  label : Option String := none
  feeRateSatPerVbyte : Option Nat := none
  federationId : Option FederationId := none
  itemId : Option ItemId := none
  txid : Option Txid := none
  txVout : Option Nat := none
  confirmationCount : Option Nat := none
  failure : Option AdminFailure := none
  withdrawalIntentId : Option String := none
  submittedAt : Option Timestamp := none
  settledTick : Option Nat := none
  releasedTick : Option Nat := none
  updatedAt : Timestamp
deriving DecidableEq

/-! ## Allocation items -/

inductive LiquidityFailureCode where
  | gatewayAttachFailed | withdrawFailed | stabilityPoolFailed
deriving DecidableEq

structure LiquidityFailure where
  code : LiquidityFailureCode
  reason : Option String
deriving DecidableEq

structure GatewayStep where
  gatewayConnected : Bool := false
  depositAddress : Option String := none
  walletOperationId : Option OperationId := none
  attributionOverdueSince : Option Timestamp := none
deriving DecidableEq

inductive SpDepositStatus where
  | submitting | initiated | txAccepted | success
  | unknown (value : String)
deriving DecidableEq

def SpDepositStatus.rank : SpDepositStatus → Option Nat
  | .submitting => some 0
  | .initiated => some 1
  | .txAccepted => some 2
  | .success => some 3
  | .unknown _ => none

inductive PegInProgress where
  | waitingForTransaction | waitingForConfirmation | confirmed | claimed
  | unknown (value : String)
deriving DecidableEq

structure StabilityStep where
  targetClientOpenedAt : Option Timestamp := none
  pegInOperationId : Option String := none
  pegInAddress : Option String := none
  walletOperationId : Option OperationId := none
  pegInStatus : Option PegInProgress := none
  pegInAmount : Option Sats := none
  spDepositStatus : Option SpDepositStatus := none
  spDepositOperationId : Option String := none
  spDepositAmount : Option Sats := none
  spDepositMinFeeRatePpb : Option Nat := none
  observedProvidedAmount : Option Sats := none
deriving DecidableEq

structure StabilityDepositSubmission where
  operationId : String
  amount : Sats
  minFeeRatePpb : Nat
deriving DecidableEq

namespace StabilityStep

def hasInFlightSubmission (s : StabilityStep) : Bool := s.spDepositStatus == some .submitting

/-- One deposit never moves backwards; another operation id starts again. -/
def advanceSpDepositStatus (s : StabilityStep) (operationId : String) (status : SpDepositStatus) :
    StabilityStep × Bool :=
  let backwards :=
    match s.spDepositStatus.bind (·.rank), status.rank with
    | some current, some next => decide (next < current)
    | _, _ => false
  if s.spDepositOperationId == some operationId && backwards then (s, false)
  else ({ s with spDepositOperationId := some operationId, spDepositStatus := some status }, true)

def beginSubmission (s : StabilityStep) (submission : StabilityDepositSubmission) : StabilityStep :=
  { s with
    spDepositStatus := some .submitting
    spDepositOperationId := some submission.operationId
    spDepositAmount := some submission.amount
    spDepositMinFeeRatePpb := some submission.minFeeRatePpb }

/-- The submission in flight. `parse` tells whether a text is an operation id. -/
def submittingSubmission (parse : String → Bool) (s : StabilityStep) :
    Except String (Option StabilityDepositSubmission) :=
  if s.hasInFlightSubmission then
    match s.spDepositOperationId, s.spDepositAmount, s.spDepositMinFeeRatePpb with
    | some operationId, some amount, some minFeeRate =>
      if !parse operationId then
        .error "in-flight stability-pool submission has a malformed operation ID"
      else if amount = 0 then .error "in-flight stability-pool submission has a zero amount"
      else .ok (some ⟨operationId, amount, minFeeRate⟩)
    | _, _, _ => .error "in-flight stability-pool submission has an incomplete persisted tuple"
  else .ok none

def setPegInStatus (s : StabilityStep) (status : PegInProgress) (amount : Option Sats) : StabilityStep :=
  { s with pegInStatus := some status, pegInAmount := amount.or s.pegInAmount }

end StabilityStep

/-- The text of a `step_json` column, by what it parses to. -/
inductive StepJson where
  | gateway (step : GatewayStep)
  | stability (step : StabilityStep)
  | unreadable (raw : String)
deriving DecidableEq

def StepJson.readGateway : Option StepJson → ServiceResult GatewayStep
  | none => .ok {}
  | some (.gateway step) => .ok step
  | some _ => .error (internalError "unreadable gateway step")

/-- Every field of a stability step is optional, so only text that is no step at all is unreadable. -/
def StepJson.readStability : Option StepJson → StabilityStep × Option String
  | none => ({}, none)
  | some (.stability step) => (step, none)
  | some (.gateway step) => ({ walletOperationId := step.walletOperationId }, none)
  | some (.unreadable raw) => ({}, some raw)

inductive CompletionEvidence where
  | gateway (gatewayId gatewayApi : String) (fulfilled observedBalance : Sats) (observedAt : Timestamp)
      (withdrawalTxid : Option Txid) (walletOperationId : Option OperationId)
  | stabilityPool (fulfilled observedProvided : Sats) (observedAt : Timestamp)
      (pegInOperationId depositOperationId : Option String)
deriving DecidableEq

inductive AllocationItemTarget where
  | gateway (itemId : ItemId) (gatewayId gatewayName : String) (amount : Sats)
  | stabilityPool (itemId : ItemId) (amount : Sats)
deriving DecidableEq

structure AllocationItem where
  itemId : ItemId
  federationId : FederationId
  sourceType : SourceType
  target : AllocationItemTarget
  status : ItemStatus
  committedAmount : Sats
  reservedAmount : Sats
  step : Option StepJson := none
  fulfilledAmount : Option Sats := none
  completionEvidence : Option CompletionEvidence := none
  failure : Option LiquidityFailure := none
  updatedAt : Timestamp

def itemIdOf (federationId : FederationId) (source : SourceType) : ItemId :=
  federationId ++ ":" ++ source.display

structure FundingTarget where
  federationId : FederationId
  federationName : String
  inviteCode : String
  federationConfigHash : String
deriving DecidableEq

structure Allocation where
  federationId : FederationId
  requesterPubkey : Pubkey
  providerPubkey : Pubkey
  network : BitcoinNetwork
  detailsPayloadHash : String
  target : FundingTarget
  committedAmount : Sats
  reservedAmount : Sats

/-! ## Setup -/

inductive CapacityMode where
  | availableFunds | explicitCap
deriving DecidableEq

inductive RpcTransport where
  | iroh | httpJson | jsonRpc
  | other (name : String)
deriving DecidableEq

structure RpcEndpointConfig where
  endpointId : Option String := none
  transport : RpcTransport := .iroh
  address : String := ""
  discoveryHints : List String := []
  rpcProtocolName : String := ""
deriving DecidableEq

/-- `ChainObserverBackendView`. Whether a password is stored is told, never the password. -/
inductive ChainObserverBackend where
  | esplora (url : String)
  | bitcoind (url : String) (username : Option String) (hasPassword : Bool)
deriving DecidableEq

structure ProviderPolicy where
  acceptedAttesterPolicies : List String := []
  supportedNetworks : List BitcoinNetwork := []
deriving DecidableEq

/-- What the modelled functions read of `SetupConfigView`. -/
structure SetupConfig where
  network : BitcoinNetwork := .bitcoin
  gatewayId : String := "gateway"
  capacityMode : CapacityMode := .availableFunds
  explicitCap : Option Sats := none
  feeReserve : Sats := 0
  confirmations : Nat := 1
  stabilityPoolMinFeeRatePpb : Nat := 0
  inDoubtReviewAfterSecs : Nat := 21600
  gatewayClaimReviewAfterSecs : Nat := 21600
  gatewayName : String := ""
  adminUrl : String := ""
  chainObserver : ChainObserverBackend := .esplora ""
  relays : List String := []
  supportedSources : List SourceType := []
  replenishment : String := ""
  advertisedEndpoint : RpcEndpointConfig := {}
  advertisement : String := ""
  providerDisplay : Option String := none
  policy : ProviderPolicy := {}
deriving DecidableEq

inductive ValidationStatus where
  | passed | failed | notRun
deriving DecidableEq

structure SetupValidationSummary where
  status : ValidationStatus
  checks : List (String × ValidationStatus) := []
deriving DecidableEq

def defaultFeeRateSatPerVbyte : BitcoinNetwork → Nat
  | .bitcoin => 5
  | .testnet | .signet | .regtest => 1

/-! ## Chain evidence -/

structure ChainOutputEvidence where
  txid : Txid
  vout : Nat
  address : Option String
  amountSats : Sats
  confirmations : Nat

inductive ChainEvidenceClaim where
  | applied (operation : WalletOperation)
  | noMatch
  | ambiguous (candidateCount : Nat)

/-! ## Operator verbs -/

inductive ManualOperationStatus where
  | accepted | rejected | notFound | alreadyApplied
deriving DecidableEq

inductive ManualReviewResolution where
  | completed | failed | safeToRetry

inductive ManualReviewOutcome where
  | completed (txid : Txid)
  | failed (reason : String)
  | safeToRetry
deriving DecidableEq

end Manifold.Liquidity
