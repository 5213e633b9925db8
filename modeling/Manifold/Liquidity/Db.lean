import Mathlib.Data.List.Sort
import Manifold.Lib.Table
import Manifold.Liquidity.Records

/-!
# The database of the liquidity manager

`wallet.rs` and `allocation_store.rs`. Each function is one transaction; `now` is its `unixepoch()`.
-/

namespace Manifold.Liquidity

open Lib

structure BalanceObservation where
  network : BitcoinNetwork
  spendable : Sats
  observedAt : Timestamp
  readTick : Nat

structure GatewayObservation where
  gatewayId : String
  federationId : Option FederationId
  status : String
  observedBalance : Option Sats
  observedAt : Timestamp

def GatewayObservation.key (o : GatewayObservation) : String :=
  match o.federationId with
  | some federationId => "gateway:" ++ o.gatewayId ++ ":federation:" ++ federationId
  | none => "gateway:" ++ o.gatewayId

structure StoredSetup where
  config : Option SetupConfig := none
  ready : Bool := false
  revision : Nat := 0
  validation : Option SetupValidationSummary := none
deriving DecidableEq

structure Db where
  allocations : List Allocation := []
  items : List AllocationItem := []
  operations : List WalletOperation := []
  tick : Nat := 0
  observation : Option BalanceObservation := none
  gatewayObservations : List GatewayObservation := []
  setup : StoredSetup := {}

namespace Db

variable (db : Db)

/-! ## Rows -/

def operation (id : OperationId) : Option WalletOperation := Table.lookup (·.operationId) id db.operations

def item (id : ItemId) : Option AllocationItem := Table.lookup (·.itemId) id db.items

def allocation (id : FederationId) : Option Allocation := Table.lookup (·.federationId) id db.allocations

def updateOperation (id : OperationId) (guard : WalletOperation → Bool)
    (f : WalletOperation → WalletOperation) : Db :=
  { db with operations := Table.update (fun r => r.operationId == id && guard r) f db.operations }

def updateItem (id : ItemId) (guard : AllocationItem → Bool) (f : AllocationItem → AllocationItem) : Db :=
  { db with items := Table.update (fun r => r.itemId == id && guard r) f db.items }

def affectsOperation (id : OperationId) (guard : WalletOperation → Bool) : Bool :=
  (db.operation id).any guard

def affectsItem (id : ItemId) (guard : AllocationItem → Bool) : Bool := (db.item id).any guard

def itemActive (id : ItemId) : Bool := db.affectsItem id (·.status.active)

def itemReserving (id : ItemId) : Bool := db.affectsItem id (·.status.reserving)

def reservedByItem (r : WalletOperation) : Bool := r.itemId.any db.itemReserving

/-! ## Wallet operations -/

/-- The keys and column ranges that an insertion must respect. -/
def insertWalletOperation (row : WalletOperation) : ServiceResult Db := do
  let _ ← toI64Sats row.amount
  if row.feeRateSatPerVbyte.any (fun rate => decide (2 ^ 63 ≤ rate)) then
    throw (invalidArgument "value exceeds SQLite i64 range")
  else if (db.operation row.operationId).isSome then throw (internalError "operation_id is taken")
  else if row.itemId.isSome &&
      db.operations.any (fun r => r.operationType = row.operationType && r.itemId = row.itemId) then
    throw (internalError "the item has an operation of this type")
  else return { db with operations := db.operations ++ [row] }

def walletOperationForItem (type : OperationType) (id : ItemId) : Option WalletOperation :=
  db.operations.find? (fun r => r.operationType = type && r.itemId = some id)

def operationsForItem (id : ItemId) : List WalletOperation :=
  db.operations.filter (fun r => r.itemId = some id)

def operationForIntent (intent : String) : Option WalletOperation :=
  db.operations.find? (fun r => r.withdrawalIntentId = some intent)

def activeWalletOperations : List WalletOperation :=
  (db.operations.filter (·.status.pendingSettlement)).insertionSort (fun r s =>
    r.updatedAt < s.updatedAt ∨ r.updatedAt = s.updatedAt ∧ r.operationId ≤ s.operationId)

def markWithdrawalBroadcast (id : OperationId) (txid : Txid) (now : Timestamp) : Db :=
  db.updateOperation id (·.status.open) (fun r =>
    { r with
      status := .broadcast
      txid := if r.txVout.isNone then some txid else r.txid
      failure := none
      submittedAt := r.submittedAt.or (some now)
      updatedAt := now })

def markOperationInDoubt (id : OperationId) (detail : String) (now : Timestamp) : Db :=
  db.updateOperation id (·.status.unsent) (fun r =>
    { r with
      status := .inDoubt
      failure := some { code := "in_doubt", message := detail, occurredAt := now }
      submittedAt := r.submittedAt.or (some now)
      updatedAt := now })

def markOperationFailed (id : OperationId) (detail : String) (now : Timestamp) : Db :=
  db.updateOperation id (·.status.unsent) (fun r =>
    { r with
      status := .failed
      failure := some { code := "wallet_submission_failed", message := detail, occurredAt := now }
      updatedAt := now })

def reviewDue (reviewAfterSecs : Nat) (now : Timestamp) (r : WalletOperation) : Bool :=
  r.status = .inDoubt && decide ((r.submittedAt.getD r.updatedAt : Int) ≤ (now : Int) - reviewAfterSecs)

def escalateInDoubtToManualReview (id : OperationId) (reviewAfterSecs : Nat) (detail : String)
    (now : Timestamp) : Bool × Db :=
  (db.affectsOperation id (reviewDue reviewAfterSecs now),
    db.updateOperation id (reviewDue reviewAfterSecs now) (fun r =>
      { r with
        status := .manualReviewRequired
        failure := some { code := "manual_review_required", message := detail, occurredAt := now }
        updatedAt := now }))

/-- Each arm applies only while the operation is under review. -/
def resolveManualReview (id : OperationId) (outcome : ManualReviewOutcome) (now : Timestamp) : Db :=
  db.updateOperation id (·.status = .manualReviewRequired) (fun r =>
    match outcome with
    | .completed txid =>
      { r with
        status := .completed
        txid := some txid
        failure := none
        settledTick := r.settledTick.or (some db.tick)
        updatedAt := now }
    | .failed reason =>
      { r with
        status := .failed
        failure := some { code := "manual_review_failed", message := reason, occurredAt := now }
        updatedAt := now }
    | .safeToRetry =>
      { r with
        status := .pending
        txid := none
        txVout := none
        confirmationCount := none
        failure := none
        submittedAt := none
        updatedAt := now })

/-- No status guard: the caller has read the operation in the same transaction. -/
def resetWalletOperation (id : OperationId) (now : Timestamp) : Db :=
  db.updateOperation id (fun _ => true) (fun r =>
    { r with
      status := .pending
      txid := none
      txVout := none
      confirmationCount := none
      failure := none
      submittedAt := none
      settledTick := none
      releasedTick := none
      updatedAt := now })

def cancelWalletOperation (id : OperationId) (reason : String) (now : Timestamp) : Db :=
  db.updateOperation id (fun _ => true) (fun r =>
    { r with
      status := .cancelled
      failure := some { code := "cancelled", message := reason, occurredAt := now }
      updatedAt := now })

/-! ## Chain evidence -/

def chainOutputFits (op : WalletOperation) (address : String) (output : ChainOutputEvidence) : Bool :=
  output.address = some address && output.amountSats ≠ 0 &&
    (op.amount = 0 || output.amountSats = op.amount) &&
    op.txid.all (· = output.txid) && op.txVout.all (· = output.vout)

def chainCandidates (op : WalletOperation) (address : String) (outputs : List ChainOutputEvidence) :
    List ChainOutputEvidence :=
  outputs.foldl (fun candidates output =>
    if !chainOutputFits op address output ||
        candidates.any (fun c => c.txid = output.txid && c.vout = output.vout) then candidates
    else
      let owner := db.operations.find? (fun r => r.txid = some output.txid && r.txVout = some output.vout)
      if owner.all (fun r => r.operationId = op.operationId) then candidates ++ [output]
      else candidates) []

def syncedStatus (confirmations required : Nat) : OperationStatus :=
  if required ≤ confirmations then .completed else if 0 < confirmations then .confirmed else .broadcast

def withEvidence (evidence : ChainOutputEvidence) (required : Nat) (now : Timestamp)
    (r : WalletOperation) : WalletOperation :=
  let status := syncedStatus evidence.confirmations required
  { r with
    status := status
    txid := some evidence.txid
    txVout := some evidence.vout
    confirmationCount := some evidence.confirmations
    amount := if r.amount = 0 then evidence.amountSats else r.amount
    settledTick := if status = .completed then r.settledTick.or (some db.tick) else r.settledTick
    updatedAt := now }

def claimChainEvidence (id : OperationId) (outputs : List ChainOutputEvidence) (required : Nat)
    (now : Timestamp) : ServiceResult ChainEvidenceClaim × Db :=
  match db.operation id with
  | none => (.error (notFound "wallet operation not found"), db)
  | some op =>
    match (if op.status.open then op.address else none) with
    | none => (.ok .noMatch, db)
    | some address =>
      match db.chainCandidates op address outputs with
      | [evidence] =>
        if 2 ^ 63 ≤ evidence.amountSats then
          (.error (internalError "out of range integral type conversion attempted"), db)
        else
          (.ok (.applied (db.withEvidence evidence required now op)),
            db.updateOperation id (fun r => r.status.open &&
              r.txid.all (· = evidence.txid) && r.txVout.all (· = evidence.vout))
              (db.withEvidence evidence required now))
      | [] => (.ok .noMatch, db)
      | candidates => (.ok (.ambiguous candidates.length), db)

/-! ## Items -/

def activeItemRows (source : SourceType) : List (AllocationItem × FundingTarget) :=
  let rows := db.items.filter (fun i => i.sourceType = source && i.status.active)
  let sorted := rows.insertionSort (fun i j =>
    i.updatedAt < j.updatedAt ∨ i.updatedAt = j.updatedAt ∧ i.itemId ≤ j.itemId)
  sorted.filterMap (fun i => (db.allocation i.federationId).map (fun a => (i, a.target)))

def itemOf (source : SourceType) (federationId : FederationId) : Option (AllocationItem × FundingTarget) :=
  (db.items.find? (fun i => i.federationId = federationId && i.sourceType = source)).bind (fun i =>
    (db.allocation i.federationId).map (fun a => (i, a.target)))

def markItemRunning (id : ItemId) (now : Timestamp) : Bool × Db :=
  (db.itemActive id, db.updateItem id (·.status.active) (fun i => { i with status := .running, updatedAt := now }))

def updateItemStep (id : ItemId) (step : StepJson) (now : Timestamp) : Db :=
  db.updateItem id (·.status.active) (fun i => { i with step := some step, updatedAt := now })

def compareAndSetItemStep (id : ItemId) (expected next : StepJson) (now : Timestamp) : Bool × Db :=
  let guard : AllocationItem → Bool := fun i => i.status.active && i.step = some expected
  (db.affectsItem id guard, db.updateItem id guard (fun i => { i with step := some next, updatedAt := now }))

def completeItem (id : ItemId) (fulfilled : Sats) (evidence : CompletionEvidence) (now : Timestamp) :
    ServiceResult Bool × Db :=
  match toI64Sats fulfilled with
  | .error e => (.error e, db)
  | .ok _ =>
    (.ok (db.itemActive id),
      db.updateItem id (·.status.active) (fun i =>
        { i with
          status := .completed
          fulfilledAmount := some fulfilled
          completionEvidence := some evidence
          updatedAt := now }))

def setItemFailure (id : ItemId) (status : ItemStatus) (failure : LiquidityFailure) (now : Timestamp) : Db :=
  db.updateItem id (·.status.active) (fun i =>
    { i with status := status, failure := some failure, updatedAt := now })

def resetItem (id : ItemId) (now : Timestamp) : Db :=
  db.updateItem id (·.status = .actionRequired) (fun i =>
    { i with
      status := .pending
      failure := none
      fulfilledAmount := none
      completionEvidence := none
      updatedAt := now })

def cancelItem (id : ItemId) (now : Timestamp) : Db :=
  db.updateItem id (fun _ => true) (fun i => { i with status := .cancelled, updatedAt := now })

/-! ## Allocations -/

structure Holding where
  reservingItems : Nat
  pendingOperations : Nat
  fulfilledSats : Nat

def Holding.isIdle (h : Holding) : Bool :=
  h.reservingItems = 0 && h.pendingOperations = 0 && h.fulfilledSats = 0

def itemsOf (federationId : FederationId) : List AllocationItem :=
  db.items.filter (fun i => i.federationId = federationId)

def tiedTo (federationId : FederationId) (r : WalletOperation) : Bool :=
  r.federationId = some federationId ||
    (db.itemsOf federationId).any (fun i => r.itemId = some i.itemId)

def allocationHolding (federationId : FederationId) : Holding where
  reservingItems := (db.itemsOf federationId).countP (·.status.reserving)
  pendingOperations :=
    db.operations.countP (fun r => db.tiedTo federationId r && r.status.pendingSettlement)
  fulfilledSats := ((db.itemsOf federationId).map (fun i => i.fulfilledAmount.getD 0)).sum

inductive ReleaseOutcome where
  | released (previousRequester : Pubkey)
  | notFound
  | held (holding : Holding)

/-- The allocation and its items go; its wallet operations stay. -/
def deleteAllocation (federationId : FederationId) : Db :=
  { db with
    items := db.items.filter (fun i => i.federationId ≠ federationId)
    allocations := db.allocations.filter (fun a => a.federationId ≠ federationId) }

def releaseAllocation (federationId : FederationId) : ReleaseOutcome × Db :=
  match db.allocation federationId with
  | none => (.notFound, db)
  | some a =>
    let holding := db.allocationHolding federationId
    if holding.isIdle then (.released a.requesterPubkey, db.deleteAllocation federationId)
    else (.held holding, db)

/-! ## Balance observations -/

def beginBalanceRead : Nat × Db := (db.tick + 1, { db with tick := db.tick + 1 })

/-- A reply whose read began before that of the stored one is discarded. -/
def upsertWalletBalanceObservation (observation : BalanceObservation) : ServiceResult Db := do
  let _ ← toI64Sats observation.spendable
  match db.observation with
  | none => return { db with observation := some observation }
  | some stored =>
    return if stored.readTick ≤ observation.readTick then { db with observation := some observation }
      else db

def gatewayObservation (gatewayId : String) : Option GatewayObservation :=
  db.gatewayObservations.find? (fun o => o.key = "gateway:" ++ gatewayId)

def upsertGatewayObservation (o : GatewayObservation) : Db :=
  { db with gatewayObservations := db.gatewayObservations.filter (fun o' => o'.key ≠ o.key) ++ [o] }

/-! ## Funding -/

/-- The operation under which an item's funding step may be sent, fenced in the transaction that moves
it to `in_doubt`. -/
def claimFundingSubmission (id : OperationId) (itemId : ItemId) (failure : AdminFailure)
    (now : Timestamp) : Bool × Db :=
  let guard : WalletOperation → Bool := fun r =>
    r.itemId = some itemId && r.status = .pending && db.itemActive itemId
  (db.affectsOperation id guard,
    db.updateOperation id guard (fun r =>
      { r with
        status := .inDoubt
        failure := some failure
        submittedAt := r.submittedAt.or (some now)
        updatedAt := now }))

inductive Ensured where
  | inactive
  | existing (operation : WalletOperation)
  | created

def ensureWalletOperation (row : WalletOperation) (itemId : ItemId) : ServiceResult Ensured × Db :=
  if db.itemActive itemId then
    match db.walletOperationForItem row.operationType itemId with
    | some operation => (.ok (.existing operation), db)
    | none =>
      match db.insertWalletOperation row with
      | .error e => (.error e, db)
      | .ok db' => (.ok .created, db')
  else (.ok .inactive, db)

end Db

end Manifold.Liquidity
