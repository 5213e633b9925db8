import Manifold.Liquidity.Attempts
import Manifold.Liquidity.Protocol

/-!
# The deposit of a stability-pool item

What the stability worker may do with the item in its turn, by what it learned from its own questions.
-/

namespace Manifold.Liquidity

open Lib

namespace StabilityStep

variable (s : StabilityStep)

def claimedAmount : Option Sats :=
  match s.pegInStatus, s.pegInOperationId with
  | some .claimed, some _ => s.pegInAmount
  | _, _ => none

def submission : Option StabilityDepositSubmission :=
  match s.spDepositOperationId, s.spDepositAmount, s.spDepositMinFeeRatePpb with
  | some operationId, some amount, some minFeeRatePpb => some ⟨operationId, amount, minFeeRatePpb⟩
  | _, _, _ => none

def depositRank : Option Nat := s.spDepositStatus.bind (·.rank)

def bind (committed : Sats) (operationId : String) : StabilityStep :=
  (advanceSpDepositStatus
    { s with
      spDepositAmount := some committed
      spDepositMinFeeRatePpb := s.spDepositMinFeeRatePpb.or (some 0) } operationId .initiated).1

end StabilityStep

structure Forward (s s' : StabilityStep) : Prop where
  operationId : s.spDepositOperationId.isSome = true → s'.spDepositOperationId = s.spDepositOperationId
  submission : s.spDepositOperationId.isSome = true → s'.submission = s.submission
  rank : s.spDepositOperationId.isSome = true → ∀ r, s.depositRank = some r → ∃ r', s'.depositRank = some r' ∧ r ≤ r'

structure StepMove (s s' : StabilityStep) : Prop where
  operationId : s'.spDepositOperationId = s.spDepositOperationId
  amount : s'.spDepositAmount = s.spDepositAmount
  minFeeRatePpb : s'.spDepositMinFeeRatePpb = s.spDepositMinFeeRatePpb
  submitting : s'.spDepositStatus = some .submitting → s.spDepositStatus = some .submitting
  rank : ∀ r, s.depositRank = some r → ∃ r', s'.depositRank = some r' ∧ r ≤ r'
  address : s.pegInAddress.isSome = true → s'.pegInAddress = s.pegInAddress
  claimed : s.pegInAddress.isSome = true → ∀ a, s.claimedAmount = some a → s'.claimedAmount = some a

structure DepositTurn where
  item : StabilityItem
  operation : Option OperationId := none
  funded : Bool := false
  fenced : Bool := false

structure DepositStage where
  waiting : List StabilityItem := []
  turn : Option DepositTurn := none

structure StabilityItem.Begins (item : StabilityItem) (submission : StabilityDepositSubmission) : Prop where
  unrecorded : item.step.spDepositOperationId = none
  amount : submission.amount = item.committedAmount
  claimed : ∃ a, item.step.claimedAmount = some a ∧ item.committedAmount ≤ a
  address : item.step.pegInAddress.isSome = true

structure StabilityStep.Discharged (s : StabilityStep) (fulfilled : Sats) : Prop where
  claimed : s.claimedAmount.isSome = true
  recorded : s.spDepositOperationId.isSome = true
  status : s.spDepositStatus = some .success
  amount : s.spDepositAmount = some fulfilled
  reported : ∃ provided, s.observedProvidedAmount = some provided ∧ fulfilled ≤ provided

namespace DepositStage

variable (d : DepositStage)

def atTurn (id : ItemId) (t : DepositTurn) : Prop := d.turn = some t ∧ t.item.itemId = id

def allows : Ask → Prop
  | .activeItems kind => kind = .stabilityPool
  | .markItemRunning id => ∃ item ∈ d.waiting, item.itemId = id
  | .setItemFailure id status _ =>
    (status = .actionRequired ∨ status = .failed) ∧ ((∃ item ∈ d.waiting, item.itemId = id) ∨ ∃ t, d.atTurn id t)
  | .ensureWalletOperation row id =>
    (∃ t, d.atTurn id t) ∧ row.operationType = .stabilityPoolFunding ∧ row.itemId = some id
  | .updateItemStep id step => ∃ t new, d.atTurn id t ∧ step = .stability new ∧ StepMove t.item.step new
  | .compareAndSetItemStep id expected next =>
    ∃ t, d.atTurn id t ∧ expected = .stability t.item.step ∧
      (next = expected ∨
        ∃ submission, t.item.Begins submission ∧ next = .stability (t.item.step.beginSubmission submission))
  | .submitDepositToProvide id submission =>
    ∃ t, d.atTurn id t ∧ t.fenced = true ∧ t.item.step.spDepositStatus = some .submitting ∧
      t.item.step.submission = some submission
  | .completeItem id kind fulfilled _ =>
    kind = .stabilityPool ∧ ∃ t, d.atTurn id t ∧ t.funded = true ∧ t.item.step.Discharged fulfilled
  | .retryFundingStep _ | .cancelAllocation .. | .abandonGatewayItem .. | .abandonTargetClientValue ..
  | .bindAndResume .. | .releaseAllocation _ | .acceptRequest .. => False
  | _ => True

def unfenced : DepositStage := { d with turn := d.turn.map (fun t => { t with fenced := false }) }

def setStep (step : StepJson) (fenced : Bool) : DepositStage :=
  { d with
    turn := d.turn.map (fun t =>
      { t with item := { t.item with step := (StepJson.readStability (some step)).1 }, fenced := fenced }) }

def take (id : ItemId) : DepositStage where
  waiting := d.waiting.filter (fun item => item.itemId ≠ id)
  turn := (Table.lookup (·.itemId) id d.waiting).map (fun item => { item := item })

def drop (id : ItemId) : DepositStage where
  waiting := d.waiting.filter (fun item => item.itemId ≠ id)
  turn := if d.turn.any (fun t => t.item.itemId = id) then none else d.unfenced.turn

def give (row : WalletOperation) (t : DepositTurn) : ServiceResult Db.Ensured → DepositTurn
  | .ok (.existing r) => { t with operation := some r.operationId, funded := r.status = .completed, fenced := false }
  | .ok .created => { t with operation := some row.operationId, funded := false, fenced := false }
  | _ => { t with operation := none, funded := false, fenced := false }

def see (id : OperationId) (t : DepositTurn) (r : ServiceResult WalletOperation) : DepositTurn :=
  { t with
    funded := t.funded || (t.operation == some id && (Except.toOption r).any (·.status = .completed))
    fenced := false }

def after : (e : Ask) → Ans e → DepositStage
  | .activeItems _, r =>
    { waiting := (Except.toOption r).elim [] (·.map stabilityItemOfRow), turn := none }
  | .markItemRunning id, r => if applied r then d.take id else d.unfenced
  | .setItemFailure id _ _, _ => d.drop id
  | .ensureWalletOperation row _, r => { d with turn := d.turn.map (fun t => give row t r) }
  | .getWalletOperation id, r => { d with turn := d.turn.map (fun t => see id t r) }
  | .updateItemStep _ step, r => if written r then d.setStep step false else d.unfenced
  | .compareAndSetItemStep _ expected next, r =>
    if applied r then d.setStep next (expected = next) else d.unfenced
  | _, _ => d.unfenced

end DepositStage

def deposits : Protocol Ans DepositStage where
  allows := DepositStage.allows
  answers := answers
  after := DepositStage.after
  ends _ := True

/-! ## The record of a deposit -/

def sinceInserted (f : FederationId) (es : List Note) : List Note :=
  Trace.since (fun n => n.2 = .allocationInserted f) es

def BoundSince (f : FederationId) (es : List Note) : Prop :=
  ∃ c step, (c, .depositBound (itemIdOf f .stabilityPool) step) ∈ sinceInserted f es

def StagedSince (f : FederationId) (es : List Note) (submission : StabilityDepositSubmission) : Prop :=
  ∃ c old, old.spDepositOperationId = none ∧
    (c, .stepSet (itemIdOf f .stabilityPool) (.stability old) (.stability (old.beginSubmission submission))) ∈
      sinceInserted f es

def SentSince (f : FederationId) (es : List Note) (submission : StabilityDepositSubmission) : Prop :=
  ∃ c, (c, .depositSubmitted (itemIdOf f .stabilityPool) submission) ∈ sinceInserted f es

/-- The recorded deposit was staged by the worker against a sufficient claim, or bound by an operator and never
submitted. -/
structure Recorded (es : List Note) (f : FederationId) (committed : Sats) (s : StabilityStep) : Prop where
  amount : s.spDepositOperationId.isSome = true → s.spDepositAmount = some committed
  origin : s.spDepositOperationId.isSome = true →
    BoundSince f es ∧ s.spDepositStatus ≠ some .submitting ∨
      (∃ submission, s.submission = some submission ∧ StagedSince f es submission) ∧
        (∃ a, s.claimedAmount = some a ∧ committed ≤ a) ∧ s.pegInAddress.isSome = true
  sent : ∀ submission, SentSince f es submission → s.submission = some submission

def FundedItem (db : Db) (id : ItemId) : Prop :=
  ∃ op ∈ db.operations, op.operationType = .stabilityPoolFunding ∧ op.itemId = some id ∧ op.status = .completed

/-- What an item has behind it when it is completed. The claim of a bound deposit is not compared with the
commitment. -/
structure DepositDone (es : List Note) (db : Db) (row : AllocationItem) (s : StabilityStep) : Prop where
  funded : FundedItem db row.itemId
  claimed : ∃ a, s.claimedAmount = some a ∧ (row.committedAmount ≤ a ∨ BoundSince row.federationId es)
  deposited : s.spDepositOperationId.isSome = true ∧ s.spDepositAmount = some row.committedAmount ∧
    s.spDepositStatus = some .success
  reported : ∃ provided, s.observedProvidedAmount = some provided ∧ row.committedAmount ≤ provided

def StepWritten (db db' : Db) (id : ItemId) (expected next : StepJson) : Prop :=
  (∃ row, db.item id = some row ∧ row.status.active = true ∧ row.step = some expected) ∧
    ∃ row, db'.item id = some row ∧ row.status.active = true ∧ row.step = some next

def AllocationItem.mayBind (row : AllocationItem) (next : StabilityStep) : Bool :=
  let step := (StepJson.readStability row.step).1
  (StepJson.readStability row.step).2.isNone && step.spDepositOperationId.isNone &&
    next.spDepositOperationId.any (fun operationId => next = step.bind row.committedAmount operationId)

/-- A bind is written on the step that its checks saw, and no allocation is inserted while the running pass
still holds the item of the one before it. -/
def depositGuard : Guard := fun s e _ =>
  match e with
  | .bindAndResume id next =>
    (s.world.db.item id).all (fun row => row.status ≠ .actionRequired || row.mayBind next)
  | .acceptRequest _ _ request =>
    !s.world.loadedStability.contains (itemIdOf request.target.federationId .stabilityPool)
  | _ => true

end Manifold.Liquidity
