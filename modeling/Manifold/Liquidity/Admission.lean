import Manifold.Liquidity.Db

/-!
# Capacity and admission
-/

namespace Manifold.Liquidity

open Lib

namespace Db

variable (db : Db)

/-! ## Capacity -/

def activeReservedAmount : Sats := Table.total (·.status.reserving) (·.reservedAmount) db.items

def stampReleasedItemOperations : Db :=
  { db with
    operations := Table.update (fun r =>
      r.releasedTick.isNone && r.settledTick.isSome && r.itemId.isSome && r.operationType.outgoing &&
        !db.reservedByItem r) (fun r => { r with releasedTick := some db.tick }) db.operations }

def unobserved (r : WalletOperation) : Bool :=
  match r.settledTick, db.observation with
  | some settled, some o => decide (o.readTick ≤ r.releasedTick.getD settled)
  | _, _ => false

def charged (r : WalletOperation) : Bool :=
  r.operationType.outgoing && (r.status.pendingSettlement || db.unobserved r) && !db.reservedByItem r

def activeWalletWithdrawalAmount : Sats × Db :=
  let db' := db.stampReleasedItemOperations
  (Table.total db'.charged (·.amount) db'.operations, db')

def availableBalance (spendable pendingOutgoing inFlightAllocations feeReserve : Sats) : Sats :=
  spendable - pendingOutgoing - inFlightAllocations - feeReserve

def availableBalanceForRequest (config : SetupConfig) (walletBalance : Sats) : Sats × Db :=
  let inFlightAllocations := db.activeReservedAmount
  let pendingOutgoing := db.activeWalletWithdrawalAmount
  (availableBalance walletBalance pendingOutgoing.1 inFlightAllocations config.feeReserve, pendingOutgoing.2)

end Db

/-! ## Acceptance -/

/-- What the modelled path reads of `RequestLiquidityRequest`. -/
structure LiquidityRequest where
  requesterPubkey : Pubkey
  detailsPayloadHash : String
  target : FundingTarget
  gatewayMinAmount : Sats
  stabilityMinAmount : Sats
  expiresAt : Timestamp
  version : Nat := 1
  issuedAt : Timestamp := 0
  providerPubkey : Pubkey := "provider"
  network : BitcoinNetwork := .bitcoin
  gatewayMaxAmount : Option Sats := none
  stabilityMaxAmount : Option Sats := none
deriving DecidableEq

structure PlannedItem where
  itemId : ItemId
  sourceType : SourceType
  target : AllocationItemTarget
  amount : Sats
  reservedAmount : Sats

structure AcceptedPlan where
  committedAmount : Sats
  reservedAmount : Sats
  items : List PlannedItem

def itemTarget (config : SetupConfig) (itemId : ItemId) (amount : Sats) : SourceType → AllocationItemTarget
  | .gateway => .gateway itemId config.gatewayId config.gatewayName amount
  | .stabilityPool => .stabilityPool itemId amount

def planItem (config : SetupConfig) (federationId : FederationId) (source : SourceType) (amount : Sats) :
    ServiceResult (List PlannedItem) :=
  if 0 < amount then do
    let reserved ← checkedSatsAdd amount config.feeReserve
    let itemId := itemIdOf federationId source
    return [⟨itemId, source, itemTarget config itemId amount source, amount, reserved⟩]
  else return []

def planItems (config : SetupConfig) (request : LiquidityRequest) : ServiceResult (List PlannedItem) := do
  let gateway ← planItem config request.target.federationId .gateway request.gatewayMinAmount
  let stability ← planItem config request.target.federationId .stabilityPool request.stabilityMinAmount
  return gateway ++ stability

namespace Db

variable (db : Db)

def planAvailable (config : SetupConfig) : Option (Sats × Db) :=
  db.observation.bind (fun o =>
    if o.network = config.network then some (db.availableBalanceForRequest config o.spendable) else none)

def capacityBasis (config : SetupConfig) (available : Sats) : Option Sats :=
  match config.capacityMode with
  | .availableFunds => some available
  | .explicitCap => config.explicitCap.map (fun cap => min (cap - db.activeReservedAmount) available)

def planAllocation (config : SetupConfig) (request : LiquidityRequest) :
    ServiceResult (Option (AcceptedPlan × Db)) := do
  let items ← planItems config request
  let committed ← checkedSum (items.map (·.amount))
  let reserved ← checkedSum (items.map (·.reservedAmount))
  match db.planAvailable config with
  | none => return none
  | some (available, db') =>
    match db'.capacityBasis config available with
    | none => return none
    | some basis => if basis < reserved then return none else return some (⟨committed, reserved, items⟩, db')

/-- Each item is stamped by the database, at its own `INSERT`. -/
def newItem (stamp : SourceType → Timestamp) (federationId : FederationId) (p : PlannedItem) : AllocationItem where
  itemId := p.itemId
  federationId := federationId
  sourceType := p.sourceType
  target := p.target
  status := .pending
  committedAmount := p.amount
  reservedAmount := p.reservedAmount
  updatedAt := stamp p.sourceType

/-- `INSERT OR IGNORE`: none when the federation or the details commitment is taken. -/
def insertAllocation (request : LiquidityRequest) (plan : AcceptedPlan) (stamp : SourceType → Timestamp) :
    ServiceResult (Option Db) := do
  let _ ← toI64Sats plan.committedAmount
  let _ ← toI64Sats plan.reservedAmount
  if db.allocations.any (fun a => a.federationId = request.target.federationId ||
      a.detailsPayloadHash = request.detailsPayloadHash) then return none
  else if plan.items.any (fun p => (db.item p.itemId).isSome) then
    throw (internalError "item_id is taken")
  else
    return some { db with
      allocations := db.allocations ++ [{
        federationId := request.target.federationId
        requesterPubkey := request.requesterPubkey
        providerPubkey := request.providerPubkey
        network := request.network
        detailsPayloadHash := request.detailsPayloadHash
        target := request.target
        committedAmount := plan.committedAmount
        reservedAmount := plan.reservedAmount }]
      items := db.items ++ plan.items.map (newItem stamp request.target.federationId) }

def takeOverIdleAllocation (request : LiquidityRequest) : Option Db :=
  match db.allocation request.target.federationId with
  | none => none
  | some current =>
    if current.requesterPubkey = request.requesterPubkey then none
    else
      match db.releaseAllocation request.target.federationId with
      | (.released _, db') => some db'
      | _ => none

def takesOver (request : LiquidityRequest) : Bool :=
  (db.allocation request.target.federationId).any (fun a => a.requesterPubkey ≠ request.requesterPubkey) &&
    (db.allocationHolding request.target.federationId).isIdle

inductive Acceptance where
  | setupChanged
  | expired
  | insufficientCapacity
  | conflict
  | accepted (plan : AcceptedPlan)

/-- The insertion of an accepted plan, after a takeover where one is possible. The flag tells that an
idle allocation was released. -/
def insertOrTakeOver (request : LiquidityRequest) (plan : AcceptedPlan) (stamp : SourceType → Timestamp) :
    ServiceResult (Option (Db × Bool)) := do
  match ← db.insertAllocation request plan stamp with
  | some db' => return some (db', false)
  | none =>
    match db.takeOverIdleAllocation request with
    | none => return none
    | some freed =>
      match ← freed.insertAllocation request plan stamp with
      | some db' => return some (db', true)
      | none => return none

def acceptRequest (config : SetupConfig) (revision : Nat) (request : LiquidityRequest) (now : Timestamp)
    (stamp : SourceType → Timestamp) : ServiceResult (Acceptance × Db × Bool) := do
  if db.setup.revision ≠ revision then return (.setupChanged, db, false)
  else if request.expiresAt ≤ now then return (.expired, db, false)
  else
    match ← db.planAllocation config request with
    | none => return (.insufficientCapacity, db, false)
    | some (plan, planned) =>
      match ← planned.insertOrTakeOver request plan stamp with
      | none => return (.conflict, db, false)
      | some (db', released) => return (.accepted plan, db', released)

/-! ## Withdrawals -/

structure WithdrawalRequest where
  withdrawalIntentId : String
  address : String
  amount : Sats
  feeRateSatPerVbyte : Option Nat

inductive WithdrawalAdmission where
  | existing (operation : WalletOperation)
  | inserted

/-- The operation starts in `in_doubt`, so it is fenced before the irreversible call. -/
def newWithdrawal (request : WithdrawalRequest) (feeRate : Nat) (id : OperationId) (now : Timestamp) :
    WalletOperation where
  operationId := id
  operationType := .withdrawal
  status := .inDoubt
  amount := request.amount
  address := some request.address
  feeRateSatPerVbyte := some feeRate
  withdrawalIntentId := some request.withdrawalIntentId
  submittedAt := some now
  updatedAt := now

/-- `request_withdrawal`: the check of the balance that the caller read and the insertion of the operation bound to
its intent. -/
def admitWithdrawal (config : SetupConfig) (request : WithdrawalRequest) (feeRate : Nat)
    (id : OperationId) (spendable : Sats) (now : Timestamp) :
    ServiceResult (WithdrawalAdmission × Db) := do
  match db.operationForIntent request.withdrawalIntentId with
  | some existing => return (.existing existing, db)
  | none =>
    let available := db.availableBalanceForRequest config spendable
    if available.1 < request.amount then
      throw (failedPrecondition "available wallet balance is insufficient")
    else
      let db' ← available.2.insertWalletOperation (newWithdrawal request feeRate id now)
      return (.inserted, db')

end Db

end Manifold.Liquidity
