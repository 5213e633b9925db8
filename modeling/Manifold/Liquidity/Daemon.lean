import Manifold.Lib.Machine
import Manifold.Liquidity.Calls

/-!
# The running daemon

Passes and calls interleaved at their awaits. gatewayd debits, forgets and receives money at any moment.
-/

namespace Manifold.Liquidity

open Lib

structure Env where
  validAddress : BitcoinNetwork → String → Except String Unit
  parseOperationId : String → Bool
  prevalidate : StoredSetup → LiquidityRequest → Option (String × String)

inductive Call where
  | gatewayPass
  | stabilityPass
  | gatewayObservation
  | sync
  | getFunds
  | createDepositAddress (label : Option String)
  | requestWithdrawal (request : Db.WithdrawalRequest)
  | retryFundingStep (request : Db.RetryRequest)
  | cancelAllocation (federationId : FederationId) (reason : Option String)
  | releaseAllocation (federationId : FederationId) (reason : String)
  | resolveManualReview (request : Db.ResolveRequest)
  | completeReviewWithoutEvidence (id : OperationId) (txid : Txid) (reason : String)
  | abandonGatewayItem (federationId : FederationId) (reason : String)
  | abandonTargetClientValue (federationId : FederationId) (reason : String)
  | bindTargetDeposit (federationId : FederationId) (operationId : String)
  | requestLiquidity (request : LiquidityRequest)

def Call.worker : Call → Option FundingKind
  | .gatewayPass => some .gateway
  | .stabilityPass => some .stabilityPool
  | _ => none

def Job.void {α : Type} (p : Job α) : Job Unit := do
  let _ ← p
  pure ()

def Call.job (env : Env) : Call → Job Unit
  | .gatewayPass => processGatewayAllocations env.validAddress
  | .stabilityPass => processStabilityPoolAllocations env.parseOperationId env.validAddress
  | .gatewayObservation => observeConfiguredGateway
  | .sync => syncWalletOperations
  | .getFunds => Liquidity.getFunds
  | .createDepositAddress label => Liquidity.createDepositAddress label
  | .requestWithdrawal request => (Liquidity.requestWithdrawal request).void
  | .retryFundingStep request => (Liquidity.retryFundingStep request).void
  | .cancelAllocation federationId reason => (Liquidity.cancelAllocation federationId reason).void
  | .releaseAllocation federationId reason => (releaseFederationAllocation federationId reason).void
  | .resolveManualReview request => (Liquidity.resolveManualReview request).void
  | .completeReviewWithoutEvidence id txid reason => (Liquidity.completeReviewWithoutEvidence id txid reason).void
  | .abandonGatewayItem federationId reason => (Liquidity.abandonGatewayItem federationId reason).void
  | .abandonTargetClientValue federationId reason =>
    (Liquidity.abandonTargetClientValue federationId reason).void
  | .bindTargetDeposit federationId operationId =>
    (Liquidity.bindTargetDeposit env.parseOperationId federationId operationId).void
  | .requestLiquidity request => (Liquidity.requestLiquidity env.prevalidate request).void

structure Caller where
  number : Nat
  worker : Option FundingKind
deriving DecidableEq

structure Thread where
  caller : Caller
  task : Task Ans Unit (Except ServiceError Unit)

structure Daemon where
  world : World
  threads : List Thread := []
  next : Nat := 0

inductive Act where
  | begin (call : Call)
  | resume (number : Nat) (x : Outside)
  | drop (number : Nat)
  | crash
  | debit (send : Send)
  | forget (send : Send)
  | deposit (amount : Sats)
  | setSetup (setup : StoredSetup)

namespace Daemon

variable (s : Daemon)

def thread (number : Nat) : Option Thread := s.threads.find? (fun t => t.caller.number = number)

def running (kind : FundingKind) : Bool := s.threads.any (fun t => t.caller.worker = some kind)

def unload (w : World) : Option FundingKind → World
  | some kind => w.load kind []
  | none => w

def remove (caller : Caller) : Daemon :=
  { s with
    world := unload s.world caller.worker
    threads := s.threads.filter (fun t => t.caller ≠ caller) }

def advance (caller : Caller) (task : Task Ans Unit (Except ServiceError Unit)) : Daemon :=
  match task with
  | .done _ _ => s.remove caller
  | .await .. =>
    { s with threads := s.threads.map (fun t => if t.caller = caller then ⟨caller, task⟩ else t) }

def start (env : Env) (call : Call) : Daemon :=
  let t : Thread := ⟨⟨s.next, call.worker⟩, call.job env ()⟩
  let s' : Daemon := { s with threads := s.threads ++ [t], next := s.next + 1 }
  s'.advance t.caller t.task

def debit (send : Send) : Daemon :=
  { s with
    world :=
      { s.world with
        wallet :=
          { balance := s.world.wallet.balance - send.amount
            sends := s.world.wallet.sends.erase send
            debits := s.world.wallet.debits ++ [(⟨send.operationId, send.amount, s.world.db.tick⟩ : Debit)] } } }

end Daemon

abbrev Note := Caller × Event

/-- An assumption on a step: the daemon, the question of the thread that goes on, and the choices of
the outside. -/
abbrev Guard := Daemon → Ask → Outside → Bool

def anyStep : Guard := fun _ _ _ => true

def resumeThread (s : Daemon) (guard : Guard) (t : Thread) (x : Outside) : Option (Daemon × List Note) :=
  match t.task with
  | .done _ _ => none
  | .await _ e k =>
    if guard s e x then
      match handler e s.world x with
      | none => none
      | some (r, w, out) =>
        some (({ s with world := w } : Daemon).advance t.caller (k r), out.map (fun o => (t.caller, o)))
    else none

def step (env : Env) (guard : Guard) (s : Daemon) : Act → Option (Daemon × List Note)
  | .begin call => if call.worker.any s.running then none else some (s.start env call, [])
  | .resume number x => (s.thread number).bind (fun t => resumeThread s guard t x)
  | .drop number =>
    (s.thread number).bind (fun t => if t.caller.worker.isSome then none else some (s.remove t.caller, []))
  | .crash => some (⟨{ s.world with counter := 1, loadedGateway := [], loadedStability := [] }, [], s.next⟩, [])
  | .debit send =>
    if send ∈ s.world.wallet.sends ∧ send.amount ≤ s.world.wallet.balance then some (s.debit send, [])
    else none
  | .forget send =>
    if send ∈ s.world.wallet.sends then some ({ s with world := s.world.removeSend send }, []) else none
  | .deposit amount =>
    some ({ s with world := { s.world with wallet :=
      { s.world.wallet with balance := s.world.wallet.balance + amount } } }, [])
  | .setSetup setup => some ({ s with world := { s.world with db := { s.world.db with setup := setup } } }, [])

def machine (env : Env) (guard : Guard) : Machine Daemon Act Note where
  init s := s.world = {} ∧ s.threads = [] ∧ s.next = 0
  step := step env guard

end Manifold.Liquidity
