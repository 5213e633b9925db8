import Manifold.Lib.Protocol
import Manifold.Liquidity.Daemon

/-!
# The protocol of the tasks

What a task of the daemon may ask, by what it learned from its own questions.
-/

namespace Manifold.Liquidity

open Lib

def fundedAddress (kind : FundingKind) (step : Option StepJson) : Option String :=
  match kind with
  | .gateway => ((StepJson.readGateway step).toOption).bind (·.depositAddress)
  | .stabilityPool => (StepJson.readStability step).1.pegInAddress

structure Snap where
  itemId : ItemId
  federationId : FederationId
  amount : Sats
  address : Option String

def fundedAmount (kind : FundingKind) (i : AllocationItem) : Sats :=
  match kind with
  | .gateway => max i.reservedAmount i.committedAmount
  | .stabilityPool => i.reservedAmount

def snapOf (kind : FundingKind) (i : AllocationItem) : Snap :=
  ⟨i.itemId, i.federationId, fundedAmount kind i, fundedAddress kind i.step⟩

inductive Attempt where
  | none
  | prepared (p : PreparedWithdrawal)
  /-- The operation is in doubt on this task's account, and the call has not left. -/
  | fenced (p : PreparedWithdrawal)
  | left (p : PreparedWithdrawal)
  | unsent (id : OperationId)

def Attempt.quiet : Attempt → Bool
  | .fenced _ | .left _ => false
  | _ => true

inductive Reading where
  | none
  | begun (tick : Nat)
  | taken (tick : Nat) (spendable : Sats)

structure Grant where
  operationId : OperationId
  pending : Bool

structure Stage where
  worker : Option FundingKind
  waiting : List Snap := []
  turn : Option Snap := none
  grant : Option Grant := none
  attempt : Attempt := .none
  reading : Reading := .none

structure FundingRow (kind : FundingKind) (s : Snap) (row : WalletOperation) : Prop where
  operationType : row.operationType = kind.operationType
  status : row.status = .pending
  amount : row.amount = s.amount
  address : row.address.isSome ∧ row.address = s.address
  federationId : row.federationId = some s.federationId
  itemId : row.itemId = some s.itemId
  intent : row.withdrawalIntentId = none
  settled : row.settledTick = none
  released : row.releasedTick = none

structure DepositRow (row : WalletOperation) : Prop where
  operationType : row.operationType = .deposit
  status : row.status = .pending
  itemId : row.itemId = none
  intent : row.withdrawalIntentId = none
  settled : row.settledTick = none
  released : row.releasedTick = none

def applied : ServiceResult Bool → Bool
  | .ok b => b
  | .error _ => false

def written : ServiceResult Unit → Bool
  | .ok _ => true
  | .error _ => false

def admitted : ServiceResult Db.WithdrawalAdmission → Bool
  | .ok .inserted => true
  | _ => false

def grantOf (row : WalletOperation) : ServiceResult Db.Ensured → Option Grant
  | .ok (.existing r) => some ⟨r.operationId, r.status = .pending⟩
  | .ok .created => some ⟨row.operationId, true⟩
  | _ => none

/-- A failed preparation of a funding operation sent nothing; a withdrawal has no operation yet. -/
def preparedAttempt (funding : Bool) (p : PreparedWithdrawal) : Except String Unit → Attempt
  | .ok _ => .prepared p
  | .error _ => if funding then .unsent p.operationId else .none

def Attempt.fence (won : Bool) : Attempt → Attempt
  | .prepared p => if won then .fenced p else .none
  | a => a

def respondedAttempt (p : PreparedWithdrawal) : SubmitResult → Attempt
  | .failed _ => .unsent p.operationId
  | _ => .none

def Reading.take : Reading → Except String (BitcoinNetwork × Sats) → Reading
  | .begun tick, .ok (_, spendable) => .taken tick spendable
  | _, _ => .none

namespace Stage

variable (l : Stage)

def atTurn (kind : FundingKind) (s : Snap) : Prop := l.worker = some kind ∧ l.turn = some s

def mayWriteStep (id : ItemId) (step : StepJson) : Prop :=
  ∃ kind s, l.atTurn kind s ∧ s.itemId = id ∧ (s.address = none ∨ fundedAddress kind (some step) = s.address)

def mayPrepare (p : PreparedWithdrawal) : Prop :=
  ∃ kind s, l.atTurn kind s ∧ l.grant = some ⟨p.operationId, true⟩ ∧ p.amount = s.amount ∧ s.address = some p.address

def mayAsk : Ask → Prop
  | .activeItems kind => l.worker = some kind
  | .submitDepositToProvide .. => l.worker = some .stabilityPool
  | .markItemRunning id => l.worker.isSome ∧ ∃ s ∈ l.waiting, s.itemId = id
  | .updateItemStep id step => l.mayWriteStep id step
  | .compareAndSetItemStep id _ next => l.mayWriteStep id next
  | .completeItem id kind _ _ => ∃ s, l.atTurn kind s ∧ s.itemId = id ∧ l.grant.isSome
  | .setItemFailure id status _ =>
    l.worker.isSome ∧ (status = .actionRequired ∨ status = .failed) ∧
      ((∃ s ∈ l.waiting, s.itemId = id) ∨ ∃ s, l.turn = some s ∧ s.itemId = id)
  | .ensureWalletOperation row id => ∃ kind s, l.atTurn kind s ∧ s.itemId = id ∧ FundingRow kind s row
  | .prepareWithdrawal p => l.worker = none ∨ l.mayPrepare p
  | .claimFundingSubmission id itemId _ =>
    ∃ p s, l.attempt = .prepared p ∧ p.operationId = id ∧ l.turn = some s ∧ s.itemId = itemId ∧ l.mayPrepare p
  | .admitWithdrawal _ request _ id _ =>
    l.worker = none ∧ 0 < request.amount ∧
      ∃ p, l.attempt = .prepared p ∧ p.operationId = id ∧ p.amount = request.amount ∧ p.address = request.address
  | .insertWalletOperation row => l.worker = none ∧ DepositRow row
  | .markOperationFailed id _ => l.attempt = .unsent id
  | .upsertWalletBalanceObservation _ spendable readAt => l.reading = .taken readAt spendable
  | .retryFundingStep _ | .cancelAllocation .. | .resolveReview .. | .completeReviewWithoutEvidence ..
  | .abandonGatewayItem .. | .abandonTargetClientValue .. | .bindAndResume .. | .releaseAllocation _
  | .acceptRequest .. => l.worker = none
  | .submitPrepared _ | .submitResponse _ => False
  | _ => True

def allows (e : Ask) : Prop :=
  match l.attempt with
  | .fenced p => e = .submitPrepared p
  | .left p => e = .submitResponse p
  | _ => l.mayAsk e

def setAddress (step : StepJson) : Stage :=
  { l with
    turn := match l.worker with
      | some kind => l.turn.map (fun s => { s with address := fundedAddress kind (some step) })
      | none => l.turn }

def take (id : ItemId) : Stage :=
  { l with
    waiting := l.waiting.filter (fun s => s.itemId ≠ id)
    turn := Table.lookup (·.itemId) id l.waiting
    grant := none
    attempt := .none }

def endTurn (id : ItemId) : Stage :=
  if l.turn.any (fun s => s.itemId = id) then { l with turn := none, grant := none } else l

def after : (e : Ask) → Ans e → Stage
  | .activeItems kind, r =>
    { l with
      waiting := (Except.toOption r).elim [] (·.map (fun row => snapOf kind row.1))
      turn := none
      grant := none }
  | .markItemRunning id, r => if applied r then l.take id else l
  | .updateItemStep _ step, r => if written r then l.setAddress step else l
  | .compareAndSetItemStep _ _ next, r => if applied r then l.setAddress next else l
  | .setItemFailure id _ _, _ => l.endTurn id
  | .ensureWalletOperation row _, r => { l with grant := grantOf row r }
  | .prepareWithdrawal p, r => { l with attempt := preparedAttempt l.worker.isSome p r }
  | .claimFundingSubmission .., r =>
    { l with attempt := l.attempt.fence (applied r), grant := if applied r then none else l.grant }
  | .admitWithdrawal .., r => { l with attempt := l.attempt.fence (admitted r) }
  | .submitPrepared p, _ => { l with attempt := .left p }
  | .submitResponse p, r => { l with attempt := respondedAttempt p r }
  | .beginBalanceRead, r => { l with reading := (Except.toOption r).elim .none .begun }
  | .balanceSummary, r => { l with reading := l.reading.take r }
  | _, _ => l

end Stage

def answers : (e : Ask) → Ans e → Prop
  | .activeItems _, r => ∀ rows, r = .ok rows → (rows.map (·.1.itemId)).Nodup
  | .getWalletOperation id, r => ∀ row, r = .ok row → row.operationId = id
  | _, _ => True

def protocol : Protocol Ans Stage where
  allows := Stage.allows
  answers := answers
  after := Stage.after
  ends l := l.attempt.quiet

end Manifold.Liquidity
