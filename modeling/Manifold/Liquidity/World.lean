import Manifold.Lib.Task
import Manifold.Liquidity.Manual

/-!
# What the liquidity manager awaits

What each await does to the database and to the provider's wallet, and which answers it admits.
-/

namespace Manifold.Liquidity

inductive FundingKind where
  | gateway | stabilityPool
deriving DecidableEq

def FundingKind.source : FundingKind → SourceType
  | .gateway => .gateway
  | .stabilityPool => .stabilityPool

def FundingKind.operationType : FundingKind → OperationType
  | .gateway => .gatewayFunding
  | .stabilityPool => .stabilityPoolFunding

def FundingKind.operationIdPrefix : FundingKind → String
  | .gateway => "wallet-gateway-funding"
  | .stabilityPool => "wallet-stability-pool-funding"

def FundingKind.labelPrefix : FundingKind → String
  | .gateway => "gateway funding"
  | .stabilityPool => "stability-pool funding"

def FundingKind.missingAddressMessage : FundingKind → String
  | .gateway => "missing gateway deposit address"
  | .stabilityPool => "missing stability-pool peg-in address"

def FundingKind.inDoubtDetail (k : FundingKind) : String :=
  k.labelPrefix ++ " submission started; gatewayd response not yet recorded"

structure PreparedWithdrawal where
  operationId : OperationId
  address : String
  amount : Sats
  feeRateSatPerVbyte : Nat
deriving DecidableEq

inductive SubmitResult where
  | submitted (txid : Txid)
  | failed (detail : String)
  | inDoubt (detail : String)

structure GatewayFederation where
  federationId : FederationId
  balance : Sats

structure GatewaySnapshot where
  state : String := "connected"
  network : BitcoinNetwork := .bitcoin
  syncedToChain : Bool := true
  gatewayApi : String := "api"
  federations : List GatewayFederation := []

inductive TargetCheck where
  | usable
  | unusable (reason : String)

inductive PegInAllocation where
  | allocated (address : String)
  | unusable (reason : String)

inductive PegInStatus where
  | waitingForTransaction
  | confirmed (amount : Sats)
  | claimed (amount : Sats) (operationId : String)
  | failed (reason : String)

inductive StabilityDepositStatus where
  | initiated | txAccepted | success
  | failed (reason : String)

inductive SubmissionReceipt where
  | submitted | matching | conflicting
deriving DecidableEq

inductive Query where
  | now
  | budgetSpent
  | gatewayInfo
  | checkInviteEndpoints (invite : String)
  | connectFederation (invite : String)
  | depositAddress (federationId : FederationId)
  | findDepositClaim (federationId : FederationId) (txid : Txid) (outIdx : Option Nat) (minAmount : Sats)
  | recheckDepositAddress (federationId : FederationId) (address : String)
  | txEvidence (txid : Txid)
  | addressEvidence (address : String)
  | chainObserver
  | ensureClient (target : FundingTarget)
  | checkTarget (target : FundingTarget)
  | allocatePegInAddress (target : FundingTarget)
  | observePegIn (target : FundingTarget) (address : String)
  | targetWalletBalance (target : FundingTarget)
  | freshDepositOperationId
  | observeDeposit (target : FundingTarget) (operationId : String)
  | report (target : FundingTarget)
  | getDepositOperation (target : FundingTarget) (operationId : String)
  | allocateDepositAddress
  | verify (request : LiquidityRequest)
  | acceptsNewAllocation

def Query.Answer : Query → Type
  | .now => Timestamp
  | .budgetSpent => Bool
  | .gatewayInfo => Except String GatewaySnapshot
  | .checkInviteEndpoints _ => Except String String
  | .connectFederation _ => Except String GatewayFederation
  | .depositAddress _ => Except String String
  | .findDepositClaim .. => Except String Bool
  | .recheckDepositAddress .. => Except String Unit
  | .txEvidence _ => Except String (Option (List ChainOutputEvidence))
  | .addressEvidence _ => Except String (List ChainOutputEvidence)
  | .chainObserver => Bool
  | .ensureClient _ => Except String Unit
  | .checkTarget _ => Except String TargetCheck
  | .allocatePegInAddress _ => Except String PegInAllocation
  | .observePegIn .. => Except String PegInStatus
  | .targetWalletBalance _ => Except String Sats
  | .freshDepositOperationId => String
  | .observeDeposit .. => Except String StabilityDepositStatus
  | .report _ => Except String Sats
  | .getDepositOperation .. => Except String (Option Sats)
  | .allocateDepositAddress => Except String String
  | .verify _ => Except (String × String) Unit
  | .acceptsNewAllocation => Bool

inductive Ask where
  | query (q : Query)
  | loadSetup
  | activeItems (kind : FundingKind)
  | itemOf (source : SourceType) (federationId : FederationId)
  | markItemRunning (id : ItemId)
  | updateItemStep (id : ItemId) (step : StepJson)
  | compareAndSetItemStep (id : ItemId) (expected next : StepJson)
  | completeItem (id : ItemId) (kind : FundingKind) (fulfilled : Sats) (evidence : CompletionEvidence)
  | setItemFailure (id : ItemId) (status : ItemStatus) (failure : LiquidityFailure)
  | ensureWalletOperation (row : WalletOperation) (itemId : ItemId)
  | getWalletOperation (id : OperationId)
  | claimFundingSubmission (id : OperationId) (itemId : ItemId) (failure : AdminFailure)
  | markWithdrawalBroadcast (id : OperationId) (txid : Txid)
  | markOperationInDoubt (id : OperationId) (detail : String)
  | markOperationFailed (id : OperationId) (detail : String)
  | gatewayObservation (gatewayId : String)
  | upsertGatewayObservation (o : GatewayObservation)
  | operationForIntent (intent : String)
  | admitWithdrawal (config : SetupConfig) (request : Db.WithdrawalRequest) (feeRate : Nat)
      (id : OperationId) (spendable : Sats)
  | insertWalletOperation (row : WalletOperation)
  | beginBalanceRead
  | upsertWalletBalanceObservation (network : BitcoinNetwork) (spendable : Sats) (readAt : Nat)
  | activeWalletOperations
  | claimChainEvidence (id : OperationId) (outputs : List ChainOutputEvidence) (required : Nat)
  | escalateInDoubt (id : OperationId) (reviewAfterSecs : Nat)
  | retryFundingStep (request : Db.RetryRequest)
  | cancelAllocation (federationId : FederationId) (reason : Option String)
  | resolveReview (id : OperationId) (outcome : ManualReviewOutcome)
  | completeReviewWithoutEvidence (id : OperationId) (txid : Txid) (reason : String)
  | abandonGatewayItem (itemId : ItemId) (operationId : Option OperationId) (detail : String)
  | abandonTargetClientValue (itemId : ItemId) (detail : String)
  | bindAndResume (itemId : ItemId) (step : StabilityStep)
  | releaseAllocation (federationId : FederationId)
  | allocation (federationId : FederationId)
  | acceptRequest (config : SetupConfig) (revision : Nat) (request : LiquidityRequest)
  | nextWalletOperationId (kind : String)
  | balanceSummary
  | prepareWithdrawal (p : PreparedWithdrawal)
  /-- The call of `submit_prepared_withdrawal` leaves for gatewayd. -/
  | submitPrepared (p : PreparedWithdrawal)
  | submitResponse (p : PreparedWithdrawal)
  | submitDepositToProvide (itemId : ItemId) (submission : StabilityDepositSubmission)

def Ans : Ask → Type
  | .query q => q.Answer
  | .loadSetup => ServiceResult StoredSetup
  | .activeItems _ => ServiceResult (List (AllocationItem × FundingTarget))
  | .itemOf .. => ServiceResult (Option (AllocationItem × FundingTarget))
  | .markItemRunning _ => ServiceResult Bool
  | .updateItemStep .. => ServiceResult Unit
  | .compareAndSetItemStep .. => ServiceResult Bool
  | .completeItem .. => ServiceResult Bool
  | .setItemFailure .. => ServiceResult Unit
  | .ensureWalletOperation .. => ServiceResult Db.Ensured
  | .getWalletOperation _ => ServiceResult WalletOperation
  | .claimFundingSubmission .. => ServiceResult Bool
  | .markWithdrawalBroadcast .. => ServiceResult Unit
  | .markOperationInDoubt .. => ServiceResult Unit
  | .markOperationFailed .. => ServiceResult Unit
  | .gatewayObservation _ => ServiceResult (Option GatewayObservation)
  | .upsertGatewayObservation _ => ServiceResult Unit
  | .operationForIntent _ => ServiceResult (Option WalletOperation)
  | .admitWithdrawal .. => ServiceResult Db.WithdrawalAdmission
  | .insertWalletOperation _ => ServiceResult Unit
  | .beginBalanceRead => ServiceResult Nat
  | .upsertWalletBalanceObservation .. => ServiceResult Unit
  | .activeWalletOperations => ServiceResult (List WalletOperation)
  | .claimChainEvidence .. => ServiceResult ChainEvidenceClaim
  | .escalateInDoubt .. => ServiceResult Bool
  | .retryFundingStep _ => ServiceResult ManualAnswer
  | .cancelAllocation .. => ServiceResult ManualAnswer
  | .resolveReview .. => ServiceResult ManualAnswer
  | .completeReviewWithoutEvidence .. => ServiceResult ManualAnswer
  | .abandonGatewayItem .. => ServiceResult ManualAnswer
  | .abandonTargetClientValue .. => ServiceResult ManualAnswer
  | .bindAndResume .. => ServiceResult Unit
  | .releaseAllocation _ => ServiceResult Db.ReleaseOutcome
  | .allocation _ => ServiceResult (Option Allocation)
  | .acceptRequest .. => ServiceResult Db.Acceptance
  | .nextWalletOperationId _ => OperationId
  | .balanceSummary => Except String (BitcoinNetwork × Sats)
  | .prepareWithdrawal _ => Except String Unit
  | .submitPrepared _ => Unit
  | .submitResponse _ => SubmitResult
  | .submitDepositToProvide .. => Except String SubmissionReceipt

/-- The choices of the outside at one await. Only those that belong to the question matter. -/
structure Outside where
  dbFails : Bool := false
  now : Timestamp := 0
  nanos : Nat := 0
  stamp : SourceType → Timestamp := fun _ => 0
  submit : SubmitResult := .submitted "txid"
  prepare : Except String Unit := .ok ()
  balance : Except String BitcoinNetwork := .ok .bitcoin
  receipt : Except String SubmissionReceipt := .ok .submitted
  budgetSpent : Bool := false
  gatewayInfo : Except String GatewaySnapshot := .ok {}
  invite : Except String String := .ok "invite"
  connect : Except String GatewayFederation := .ok ⟨"federation", 0⟩
  address : Except String String := .ok "address"
  depositClaim : Except String Bool := .ok true
  recheck : Except String Unit := .ok ()
  txEvidence : Except String (Option (List ChainOutputEvidence)) := .ok none
  addressEvidence : Except String (List ChainOutputEvidence) := .ok []
  chainObserver : Bool := true
  ensureClient : Except String Unit := .ok ()
  target : Except String TargetCheck := .ok .usable
  pegIn : Except String PegInAllocation := .ok (.allocated "address")
  pegInStatus : Except String PegInStatus := .ok .waitingForTransaction
  targetBalance : Except String Sats := .ok 0
  depositOperationId : String := "deposit"
  depositStatus : Except String StabilityDepositStatus := .ok .initiated
  report : Except String Sats := .ok 0
  depositOperation : Except String (Option Sats) := .ok none
  verify : Except (String × String) Unit := .ok ()
  acceptsNewAllocation : Bool := true

/-! ## The provider's wallet -/

structure Send where
  operationId : OperationId
  amount : Sats
deriving DecidableEq

structure Debit where
  operationId : OperationId
  amount : Sats
  tick : Nat

structure Wallet where
  balance : Sats := 0
  sends : List Send := []
  debits : List Debit := []

structure World where
  db : Db := {}
  wallet : Wallet := {}
  counter : Nat := 1
  loadedGateway : List ItemId := []
  loadedStability : List ItemId := []

inductive Event where
  | operationCreated (row : WalletOperation)
  | ensured (item : ItemId) (operation : OperationId)
  | fenced (operation : OperationId) (item : Option ItemId)
  | prepareFailed (operation : OperationId)
  | submitted (p : PreparedWithdrawal)
  | submitRefused (operation : OperationId)
  | resolved (operation : OperationId) (outcome : ManualReviewOutcome)
  | retried (operation : OperationId)
  | allocationInserted (federation : FederationId)
  | allocationReleased (federation : FederationId)
  | itemCompleted (item : ItemId) (operation : Option OperationId)
  | depositSubmitted (item : ItemId) (submission : StabilityDepositSubmission)
  | stepSet (item : ItemId) (expected next : StepJson)
  | depositBound (item : ItemId) (step : StabilityStep)
deriving DecidableEq

namespace World

variable (w : World) (x : Outside)

def dbError : ServiceError := internalError "database"

def read {α : Type} (f : Db → α) : Option (ServiceResult α × World × List Event) :=
  some (if x.dbFails then .error dbError else .ok (f w.db), w, [])

def run {α : Type} (f : Db → ServiceResult α × Db × List Event) : Option (ServiceResult α × World × List Event) :=
  if x.dbFails then some (.error dbError, w, [])
  else some ((f w.db).1, { w with db := (f w.db).2.1 }, (f w.db).2.2)

def write {α : Type} (f : Db → α × Db) : Option (ServiceResult α × World × List Event) :=
  w.run x (fun db => (.ok (f db).1, (f db).2, []))

def load (kind : FundingKind) (ids : List ItemId) : World :=
  match kind with
  | .gateway => { w with loadedGateway := ids }
  | .stabilityPool => { w with loadedStability := ids }

def sendOf (id : OperationId) : Option Send := w.wallet.sends.find? (fun s => s.operationId = id)

def debited (id : OperationId) : Bool := w.wallet.debits.any (fun d => d.operationId = id)

def removeSend (s : Send) : World := { w with wallet := { w.wallet with sends := w.wallet.sends.erase s } }

end World

def answerQuery (x : Outside) : (q : Query) → q.Answer
  | .now => x.now
  | .budgetSpent => x.budgetSpent
  | .gatewayInfo => x.gatewayInfo
  | .checkInviteEndpoints _ => x.invite
  | .connectFederation _ => x.connect
  | .depositAddress _ => x.address
  | .findDepositClaim .. => x.depositClaim
  | .recheckDepositAddress .. => x.recheck
  | .txEvidence _ => x.txEvidence
  | .addressEvidence _ => x.addressEvidence
  | .chainObserver => x.chainObserver
  | .ensureClient _ => x.ensureClient
  | .checkTarget _ => x.target
  | .allocatePegInAddress _ => x.pegIn
  | .observePegIn .. => x.pegInStatus
  | .targetWalletBalance _ => x.targetBalance
  | .freshDepositOperationId => x.depositOperationId
  | .observeDeposit .. => x.depositStatus
  | .report _ => x.report
  | .getDepositOperation .. => x.depositOperation
  | .allocateDepositAddress => x.address
  | .verify _ => x.verify
  | .acceptsNewAllocation => x.acceptsNewAllocation

/-! ## The transactions with their events -/

namespace Db

variable (db : Db)

def runEnsure (row : WalletOperation) (itemId : ItemId) : ServiceResult Ensured × Db × List Event :=
  match db.ensureWalletOperation row itemId with
  | (.ok (.existing r), db') => (.ok (.existing r), db', [.ensured itemId r.operationId])
  | (.ok .created, db') => (.ok .created, db', [.operationCreated row, .ensured itemId row.operationId])
  | (r, db') => (r, db', [])

def runClaim (id : OperationId) (itemId : ItemId) (failure : AdminFailure) (now : Timestamp) :
    ServiceResult Bool × Db × List Event :=
  let r := db.claimFundingSubmission id itemId failure now
  (.ok r.1, r.2, if r.1 then [.fenced id (some itemId)] else [])

def runComplete (id : ItemId) (kind : FundingKind) (fulfilled : Sats) (evidence : CompletionEvidence)
    (now : Timestamp) : ServiceResult Bool × Db × List Event :=
  let r := db.completeItem id fulfilled evidence now
  let operation := (db.walletOperationForItem kind.operationType id).map (·.operationId)
  (r.1, r.2, match r.1 with | .ok true => [.itemCompleted id operation] | _ => [])

def runCompareAndSet (id : ItemId) (expected next : StepJson) (now : Timestamp) :
    ServiceResult Bool × Db × List Event :=
  let r := db.compareAndSetItemStep id expected next now
  (.ok r.1, r.2, if r.1 then [.stepSet id expected next] else [])

def runBind (id : ItemId) (step : StabilityStep) (now : Timestamp) : ServiceResult Unit × Db × List Event :=
  let r := db.bindAndResume id step now
  (r.1, r.2, match r.1 with | .ok _ => [.depositBound id step] | .error _ => [])

def runAdmitWithdrawal (config : SetupConfig) (request : WithdrawalRequest) (feeRate : Nat)
    (id : OperationId) (spendable : Sats) (now : Timestamp) :
    ServiceResult WithdrawalAdmission × Db × List Event :=
  match db.admitWithdrawal config request feeRate id spendable now with
  | .ok (.inserted, db') =>
    (.ok .inserted, db', [.operationCreated (newWithdrawal request feeRate id now), .fenced id none])
  | .ok (existing, db') => (.ok existing, db', [])
  | .error e => (.error e, db, [])

def runInsert (row : WalletOperation) : ServiceResult Unit × Db × List Event :=
  match db.insertWalletOperation row with
  | .ok db' => (.ok (), db', [.operationCreated row])
  | .error e => (.error e, db, [])

def runRetry (request : RetryRequest) (now : Timestamp) : ServiceResult ManualAnswer × Db × List Event :=
  let r := db.retryFundingStep request now
  (.ok r.1, r.2.1, r.2.2.map .retried)

def runResolve (id : OperationId) (outcome : ManualReviewOutcome) (r : ManualAnswer × Db) :
    ServiceResult ManualAnswer × Db × List Event :=
  (.ok r.1, r.2, if r.1.status = .accepted then [.resolved id outcome] else [])

def runRelease (federationId : FederationId) : ServiceResult ReleaseOutcome × Db × List Event :=
  match db.releaseAllocation federationId with
  | (.released requester, db') => (.ok (.released requester), db', [.allocationReleased federationId])
  | (outcome, db') => (.ok outcome, db', [])

def runAccept (config : SetupConfig) (revision : Nat) (request : LiquidityRequest) (now : Timestamp)
    (stamp : SourceType → Timestamp) : ServiceResult Acceptance × Db × List Event :=
  match db.acceptRequest config revision request now stamp with
  | .error e => (.error e, db, [])
  | .ok (.accepted plan, db', released) =>
    (.ok (.accepted plan), db',
      (if released then [.allocationReleased request.target.federationId] else []) ++
        [.allocationInserted request.target.federationId])
  | .ok (acceptance, db', _) => (.ok acceptance, db', [])

def runUpsertBalance (observation : BalanceObservation) : ServiceResult Unit × Db × List Event :=
  match db.upsertWalletBalanceObservation observation with
  | .ok db' => (.ok (), db', [])
  | .error e => (.error e, db, [])

end Db

/-! ## The handler -/

def handler : Lib.Handler Ans World Outside Event
  | .query q, w, x => some (answerQuery x q, w, [])
  | .loadSetup, w, x => w.read x (·.setup)
  | .activeItems kind, w, x =>
    if x.dbFails then some (.error World.dbError, w, [])
    else
      let rows := w.db.activeItemRows kind.source
      some (.ok rows, w.load kind (rows.map (·.1.itemId)), [])
  | .itemOf source federationId, w, x => w.read x (·.itemOf source federationId)
  | .markItemRunning id, w, x => w.write x (·.markItemRunning id x.now)
  | .updateItemStep id step, w, x => w.write x (fun db => ((), db.updateItemStep id step x.now))
  | .compareAndSetItemStep id expected next, w, x => w.run x (·.runCompareAndSet id expected next x.now)
  | .completeItem id kind fulfilled evidence, w, x => w.run x (·.runComplete id kind fulfilled evidence x.now)
  | .setItemFailure id status failure, w, x => w.write x (fun db => ((), db.setItemFailure id status failure x.now))
  | .ensureWalletOperation row itemId, w, x => w.run x (·.runEnsure { row with updatedAt := x.now } itemId)
  | .getWalletOperation id, w, x =>
    w.run x (fun db =>
      match db.operation id with
      | some r => (.ok r, db, [])
      | none => (.error (notFound "wallet operation not found"), db, []))
  | .claimFundingSubmission id itemId failure, w, x =>
    w.run x (·.runClaim id itemId { failure with occurredAt := x.now } x.now)
  | .markWithdrawalBroadcast id txid, w, x => w.write x (fun db => ((), db.markWithdrawalBroadcast id txid x.now))
  | .markOperationInDoubt id detail, w, x => w.write x (fun db => ((), db.markOperationInDoubt id detail x.now))
  | .markOperationFailed id detail, w, x => w.write x (fun db => ((), db.markOperationFailed id detail x.now))
  | .gatewayObservation gatewayId, w, x => w.read x (·.gatewayObservation gatewayId)
  | .upsertGatewayObservation o, w, x => w.write x (fun db => ((), db.upsertGatewayObservation o))
  | .operationForIntent intent, w, x => w.read x (·.operationForIntent intent)
  | .admitWithdrawal config request feeRate id spendable, w, x =>
    w.run x (·.runAdmitWithdrawal config request feeRate id spendable x.now)
  | .insertWalletOperation row, w, x => w.run x (·.runInsert { row with updatedAt := x.now })
  | .beginBalanceRead, w, x => w.write x (·.beginBalanceRead)
  | .upsertWalletBalanceObservation network spendable readAt, w, x =>
    w.run x (·.runUpsertBalance ⟨network, spendable, x.now, readAt⟩)
  | .activeWalletOperations, w, x => w.read x (·.activeWalletOperations)
  | .claimChainEvidence id outputs required, w, x =>
    w.run x (fun db => let r := db.claimChainEvidence id outputs required x.now; (r.1, r.2, []))
  | .escalateInDoubt id reviewAfterSecs, w, x =>
    w.write x (·.escalateInDoubtToManualReview id reviewAfterSecs
      "no chain or target-side evidence resolved this send within the configured review threshold" x.now)
  | .retryFundingStep request, w, x => w.run x (·.runRetry request x.now)
  | .cancelAllocation federationId reason, w, x => w.write x (·.cancelAllocation federationId reason x.now)
  | .resolveReview id outcome, w, x =>
    w.run x (fun db => Db.runResolve id outcome (db.resolveReview id outcome x.now))
  | .completeReviewWithoutEvidence id txid reason, w, x =>
    w.run x (fun db =>
      Db.runResolve id (.completed txid) (db.completeReviewWithoutEvidence id txid reason x.now))
  | .abandonGatewayItem itemId operationId detail, w, x =>
    w.run x (fun db => let r := db.abandonGatewayItem itemId operationId detail x.now; (r.1, r.2, []))
  | .abandonTargetClientValue itemId detail, w, x =>
    w.run x (fun db => let r := db.abandonTargetClientValue itemId detail x.now; (r.1, r.2, []))
  | .bindAndResume itemId step, w, x => w.run x (·.runBind itemId step x.now)
  | .releaseAllocation federationId, w, x => w.run x (·.runRelease federationId)
  | .allocation federationId, w, x => w.read x (·.allocation federationId)
  | .acceptRequest config revision request, w, x => w.run x (·.runAccept config revision request x.now x.stamp)
  | .nextWalletOperationId kind, w, x =>
    some ("wallet-" ++ kind ++ "-" ++ toString x.nanos ++ "-" ++ toString w.counter,
      { w with counter := w.counter + 1 }, [])
  | .balanceSummary, w, x => some (x.balance.map (fun network => (network, w.wallet.balance)), w, [])
  | .prepareWithdrawal p, w, x =>
    if p.amount = 0 then
      some (.error "withdrawal amount must be greater than zero", w, [.prepareFailed p.operationId])
    else
      some (x.prepare, w, match x.prepare with | .ok _ => [] | .error _ => [.prepareFailed p.operationId])
  | .submitPrepared p, w, _ =>
    some ((), { w with wallet := { w.wallet with sends := w.wallet.sends ++ [⟨p.operationId, p.amount⟩] } },
      [.submitted p])
  | .submitResponse p, w, x =>
    match x.submit with
    | .failed detail =>
      -- only of a send that has not left the balance, and now never will
      match w.sendOf p.operationId with
      | some s => some (.failed detail, w.removeSend s, [.submitRefused p.operationId])
      | none =>
        if w.debited p.operationId then none
        else some (.failed detail, w, [.submitRefused p.operationId])
    | answer => some (answer, w, [])
  | .submitDepositToProvide itemId submission, w, x =>
    some (x.receipt, w, [.depositSubmitted itemId submission])

end Manifold.Liquidity
