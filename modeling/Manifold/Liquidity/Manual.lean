import Manifold.Liquidity.Admission

/-!
# Operator verbs

`manual_ops.rs` and `target_recovery.rs`.
-/

namespace Manifold.Liquidity

def OperationStatus.display : OperationStatus → String
  | .pending => "pending"
  | .broadcast => "broadcast"
  | .confirmed => "confirmed"
  | .completed => "completed"
  | .inDoubt => "in_doubt"
  | .manualReviewRequired => "manual_review_required"
  | .failed => "failed"
  | .cancelled => "cancelled"

def ItemStatus.display : ItemStatus → String
  | .pending => "pending"
  | .running => "running"
  | .actionRequired => "action_required"
  | .completed => "completed"
  | .failed => "failed"
  | .cancelled => "cancelled"

def ManualReviewOutcome.display : ManualReviewOutcome → String
  | .completed _ => "completed"
  | .failed _ => "failed"
  | .safeToRetry => "safe_to_retry"

structure ManualAnswer where
  status : ManualOperationStatus
  detail : String

namespace Db

variable (db : Db)

/-! ## Retry -/

structure RetryRequest where
  federationId : FederationId
  itemId : Option ItemId
  operationId : Option OperationId

def retrySafe (r : WalletOperation) : Bool :=
  (r.status = .pending || r.status = .failed) && r.txid.isNone

def retryOperation (request : RetryRequest) : Except ManualAnswer (Option WalletOperation) :=
  match request.operationId with
  | none => .ok none
  | some id =>
    match db.operation id with
    | none => .error ⟨.notFound, "wallet operation not found"⟩
    | some r =>
      if r.federationId ≠ some request.federationId then
        .error ⟨.notFound, "wallet operation does not belong to the allocation"⟩
      else if r.itemId.isNone then
        .error ⟨.rejected, "wallet operation is not attached to an allocation item"⟩
      else if request.itemId.any (fun i => r.itemId ≠ some i) then
        .error ⟨.notFound, "wallet operation does not belong to requested item"⟩
      else .ok (some r)

def retryScan (named : Option WalletOperation) :
    List AllocationItem → Except ManualAnswer (List ItemId × List OperationId)
  | [] => .ok ([], [])
  | i :: rest =>
    if i.status = .failed then
      .error ⟨.rejected, "failed allocation items are terminal and cannot be retried"⟩
    else if i.status ≠ .actionRequired then retryScan named rest
    else
      let operations :=
        match named with
        | some r => [r]
        | none => db.operationsForItem i.itemId
      match operations.find? (fun r => !retrySafe r) with
      | some r =>
        .error ⟨.rejected, "wallet operation " ++ r.operationId ++ " is in state " ++
          r.status.display ++ " and cannot be retried"⟩
      | none => do
          let (items, wallets) ← retryScan named rest
          let failed := (operations.filter (fun r => r.status = .failed)).map (·.operationId)
          return (i.itemId :: items, failed ++ wallets)

def requeue (items : List ItemId) (wallets : List OperationId) (now : Timestamp) : Db :=
  let reset := wallets.foldl (fun d id => d.resetWalletOperation id now) db
  items.foldl (fun d id => d.resetItem id now) reset

def retryFundingStep (request : RetryRequest) (now : Timestamp) : ManualAnswer × Db × List OperationId :=
  if (db.allocation request.federationId).isNone then (⟨.notFound, "allocation not found"⟩, db, [])
  else
    match db.retryOperation request with
    | .error answer => (answer, db, [])
    | .ok named =>
      let selector := (named.bind (·.itemId)).or request.itemId
      let items := (db.itemsOf request.federationId).filter (fun i => selector.all (· = i.itemId))
      if items.isEmpty then (⟨.notFound, "allocation item not found"⟩, db, [])
      else
        match db.retryScan named items with
        | .error answer => (answer, db, [])
        | .ok ([], []) =>
          (⟨.alreadyApplied, "no action-required safe funding step matched the request"⟩, db, [])
        | .ok (itemIds, wallets) =>
          (⟨.accepted, "safe funding step was requeued"⟩, db.requeue itemIds wallets now, wallets)

/-! ## Cancellation -/

def cancelSafe (r : WalletOperation) : Bool :=
  r.status = .pending || r.status = .failed || r.status = .cancelled

/-- The items and operations to cancel. An operation that may have been sent refuses the whole. -/
def cancelScan : List AllocationItem → Except ManualAnswer (List ItemId × List OperationId)
  | [] => .ok ([], [])
  | i :: rest =>
    if i.status.reserving then
      let operations := db.operationsForItem i.itemId
      match operations.find? (fun r => !cancelSafe r) with
      | some r =>
        .error ⟨.rejected, "wallet operation " ++ r.operationId ++ " is in state " ++
          r.status.display ++ " and cannot be cancelled"⟩
      | none => do
          let (items, wallets) ← cancelScan rest
          let open_ := (operations.filter (fun r => r.status = .pending || r.status = .failed)).map
            (·.operationId)
          return (i.itemId :: items, open_ ++ wallets)
    else cancelScan rest

def cancelAll (items : List ItemId) (wallets : List OperationId) (reason : String) (now : Timestamp) : Db :=
  let cancelled := wallets.foldl (fun d id => d.cancelWalletOperation id reason now) db
  items.foldl (fun d id => d.cancelItem id now) cancelled

def cancelAllocation (federationId : FederationId) (reason : Option String) (now : Timestamp) : ManualAnswer × Db :=
  if (db.allocation federationId).isNone then (⟨.notFound, "allocation not found"⟩, db)
  else
    let items := db.itemsOf federationId
    match db.cancelScan items with
    | .error answer => (answer, db)
    | .ok ([], _) =>
      if !items.isEmpty && items.all (·.status = .cancelled) then
        (⟨.alreadyApplied, "allocation is already cancelled"⟩, db)
      else (⟨.rejected, "allocation has no cancellable active items"⟩, db)
    | .ok (itemIds, wallets) =>
      (⟨.accepted, "allocation cancellation was applied"⟩,
        db.cancelAll itemIds wallets (reason.getD "operator cancelled funding work") now)

/-! ## Manual review -/

structure ResolveRequest where
  operationId : OperationId
  resolution : ManualReviewResolution
  txid : Option Txid
  reason : Option String

/-- A txid accompanies exactly the completed resolution. -/
def ResolveRequest.outcome (r : ResolveRequest) : Except ManualAnswer ManualReviewOutcome :=
  match r.resolution, r.txid with
  | .completed, some txid =>
    if txid.trimAscii.isEmpty then
      .error ⟨.rejected, "resolving an operation as completed requires the settling txid"⟩
    else .ok (.completed txid)
  | .completed, none => .error ⟨.rejected, "resolving an operation as completed requires the settling txid"⟩
  | _, some _ => .error ⟨.rejected, "a txid may only accompany the completed resolution"⟩
  | .failed, none => .ok (.failed (r.reason.getD "operator resolved manual review as failed"))
  | .safeToRetry, none => .ok .safeToRetry

def notUnderReview (r : WalletOperation) : String :=
  "wallet operation " ++ r.operationId ++ " is in state " ++ r.status.display ++ " and is not under manual review"

def resolveReview (id : OperationId) (outcome : ManualReviewOutcome) (now : Timestamp) : ManualAnswer × Db :=
  match db.operation id with
  | none => (⟨.notFound, "wallet operation not found"⟩, db)
  | some r =>
    if r.status ≠ .manualReviewRequired then
      (⟨if r.status = .inDoubt then .rejected else .alreadyApplied, notUnderReview r⟩, db)
    else (⟨.accepted, "manual review resolved as " ++ outcome.display⟩, db.resolveManualReview id outcome now)

def completeReviewWithoutEvidence (id : OperationId) (txid : Txid) (reason : String) (now : Timestamp) :
    ManualAnswer × Db :=
  match db.operation id with
  | none => (⟨.notFound, "wallet operation not found"⟩, db)
  | some r =>
    if r.status ≠ .manualReviewRequired then (⟨.rejected, notUnderReview r⟩, db)
    else
      (⟨.accepted, "operator completed this send without chain evidence, asserting transaction " ++
        txid ++ "; FLIP did not verify that it pays this operation. Reason: " ++ reason⟩,
        db.resolveManualReview id (.completed txid) now)

/-! ## Abandonment -/

def abandonGatewayItem (itemId : ItemId) (operationId : Option OperationId) (detail : String)
    (now : Timestamp) : ServiceResult ManualAnswer × Db :=
  match operationId.bind db.operation with
  | none =>
    (.ok ⟨.rejected, "this item records no funding wallet operation, so nothing has reached the " ++
      "gateway; resolve it with cancel_allocation instead"⟩, db)
  | some r =>
    if r.status ≠ .completed then
      (.ok ⟨.rejected, "the funding wallet operation is " ++ r.status.display ++
        " rather than completed, so no value has reached the gateway for this item; resolve it with " ++
        "retry_funding_step or cancel_allocation instead"⟩, db)
    else if db.itemReserving itemId then
      (.ok ⟨.accepted, detail⟩,
        db.updateItem itemId (·.status.reserving) (fun i =>
          { i with
            status := .failed
            failure := some ⟨.gatewayAttachFailed, some detail⟩
            updatedAt := now }))
    else
      (.error (failedPrecondition
        "allocation item stopped holding a reservation while it was being abandoned"), db)

def abandonTargetClientValue (itemId : ItemId) (detail : String) (now : Timestamp) : ServiceResult ManualAnswer × Db :=
  if db.affectsItem itemId (·.status = .actionRequired) then
    (.ok ⟨.accepted, detail⟩,
      db.updateItem itemId (·.status = .actionRequired) (fun i =>
        { i with
          status := .failed
          failure := some ⟨.stabilityPoolFailed, some detail⟩
          updatedAt := now }))
  else (.error (failedPrecondition "allocation item changed status while it was being abandoned"), db)

def bindAndResume (itemId : ItemId) (step : StabilityStep) (now : Timestamp) : ServiceResult Unit × Db :=
  if db.affectsItem itemId (·.status = .actionRequired) then
    (.ok (),
      db.updateItem itemId (·.status = .actionRequired) (fun i =>
        { i with
          status := .running
          step := some (.stability step)
          failure := none
          updatedAt := now }))
  else (.error (failedPrecondition "allocation item changed status while the deposit was being bound"), db)

end Db

end Manifold.Liquidity
