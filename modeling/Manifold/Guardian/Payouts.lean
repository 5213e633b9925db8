import Manifold.Lib.Server
import Manifold.Guardian.Facts

/-!
# Payout jobs

`crates/mg/fedimint/src/payout_worker.rs` and `payout_store.rs`. Each statement and each native call is an await.
-/

namespace Manifold.Guardian.Payouts

open Lib

abbrev RequestId := String

structure DestinationCap where
  maximumMsat : Nat
  remainingMsat : Nat
deriving DecidableEq

structure Payout where
  operationId : String
  amountMsat : Nat
  capped : Option DestinationCap := none
deriving DecidableEq

inductive PayoutScope where
  | paymentFederation (federationId : FederationId)
  | guardianFee (federationId : FederationId) (seatId : QuoteId) (inviteCode : InviteCode)
deriving DecidableEq

structure PayoutJobOperation where
  operationId : String
  amountMsat : Nat
  capped : Option DestinationCap
  committedAtMs : Nat
deriving DecidableEq

structure PayoutJob where
  requestId : RequestId
  scope : PayoutScope
  destination : String
  operation : Option PayoutJobOperation
  createdAtMs : Nat
deriving DecidableEq

structure NativeOperation where
  wallet : String
  requestId : RequestId
  destination : String
  payout : Payout
deriving DecidableEq

structure Store where
  destination : Option String := none
  jobs : List PayoutJob := []
  native : List NativeOperation := []

def exclusionKey : PayoutScope → String
  | .paymentFederation federationId => "payment:" ++ federationId
  | .guardianFee federationId seatId _ => "guardian:" ++ federationId ++ ":" ++ hexEncode (seatIdBytes seatId)

/-- `invite_code.federation_id()` is a parameter. -/
def validateScope (federationOf : InviteCode → FederationId) : PayoutScope → Bool
  | .paymentFederation _ => true
  | .guardianFee federationId _ inviteCode => federationId == federationOf inviteCode

namespace Store

variable (s : Store)

def get (id : RequestId) : Option PayoutJob := Table.lookup (·.requestId) id s.jobs

/-- `INSERT … ON CONFLICT(request_id) DO NOTHING`. -/
def insert (job : PayoutJob) : Store :=
  if (s.get job.requestId).isSome then s else { s with jobs := s.jobs ++ [job] }

def commit (id : RequestId) (p : Payout) (now : Nat) : Store :=
  { s with
    jobs := Table.update (fun j => j.requestId == id && j.operation.isNone)
      (fun j => { j with operation := some ⟨p.operationId, p.amountMsat, p.capped, now⟩ }) s.jobs }

def payoutForRequest (job : PayoutJob) : Option Payout :=
  (s.native.find? (fun o => o.wallet = exclusionKey job.scope && o.requestId = job.requestId &&
    o.destination = job.destination)).map (·.payout)

end Store

def Payout.fits (p : Payout) : Bool :=
  decide (p.amountMsat < 2 ^ 63) &&
    p.capped.all (fun c => decide (c.maximumMsat < 2 ^ 63) && decide (c.remainingMsat < 2 ^ 63))

inductive Call where
  | startJob (id : RequestId) (scope : PayoutScope)
  | status (id : RequestId)

inductive Phase where
  | getting (id : RequestId) (scope : PayoutScope)
  | choosing (id : RequestId) (scope : PayoutScope)
  | inserting (id : RequestId) (scope : PayoutScope) (destination : String)
  | rereading (id : RequestId) (scope : PayoutScope) (destination : String)
  | locking (job : PayoutJob)
  | recovering (job : PayoutJob)
  | starting (job : PayoutJob)
  | responding (job : PayoutJob) (payout : Payout)
  | committing (job : PayoutJob) (payout : Payout) (locked : Bool)
  | committed (job : PayoutJob) (payout : Payout) (locked : Bool)
  | looking (id : RequestId)
  | finding (job : PayoutJob)

inductive Choice where
  | go (now : Nat)
  | fail
  | durable (payout : Payout)

inductive Outside where
  | setDestination (destination : Option String)
  | crash
deriving DecidableEq

inductive Event where
  | started (operation : NativeOperation)
  | returned (job : PayoutJob)
deriving DecidableEq

def proceed (federationOf : InviteCode → FederationId) (job : PayoutJob) : Option Phase × List Event :=
  if validateScope federationOf job.scope then
    if job.operation.isSome then (none, [.returned job]) else (some (.locking job), [])
  else (none, [])

def resume (federationOf : InviteCode → FederationId) (s : Store) :
    Phase → Choice → Option (Store × Option Phase × List Event)
  | _, .fail => some (s, none, [])
  | .getting id scope, .go _ =>
    match s.get id with
    | some job => some (s, if job.scope = scope then proceed federationOf job else (none, []))
    | none => some (s, some (.choosing id scope), [])
  | .choosing id scope, .go _ => some (s, s.destination.map (.inserting id scope), [])
  | .inserting id scope destination, .go now =>
    some (s.insert ⟨id, scope, destination, none, now⟩, some (.rereading id scope destination), [])
  | .rereading id scope destination, .go _ =>
    match s.get id with
    | some job =>
      some (s, if job.scope = scope ∧ job.destination = destination then proceed federationOf job else (none, []))
    | none => some (s, none, [])
  | .locking job, .go _ => some (s, some (.recovering job), [])
  | .recovering job, .go _ =>
    match s.payoutForRequest job with
    | some payout => some (s, some (.committing job payout true), [])
    | none => some (s, some (.starting job), [])
  | .starting job, .durable payout =>
    let operation : NativeOperation := ⟨exclusionKey job.scope, job.requestId, job.destination, payout⟩
    if s.native.any (fun o => o.payout.operationId = payout.operationId) then none
    else some ({ s with native := s.native ++ [operation] }, some (.responding job payout), [.started operation])
  | .responding job payout, .go _ => some (s, some (.committing job payout true), [])
  | .committing job payout locked, .go now =>
    if payout.fits then some (s.commit job.requestId payout now, some (.committed job payout locked), [])
    else some (s, none, [])
  | .committed job payout locked, .go _ =>
    match s.get job.requestId with
    | some j =>
      if j.operation.any (fun o => o.operationId = payout.operationId && o.amountMsat = payout.amountMsat) then
        some (s, none, if locked then [.returned j] else [])
      else some (s, none, [])
    | none => some (s, none, [])
  | .looking id, .go _ =>
    match s.get id with
    | some job =>
      some (s, if validateScope federationOf job.scope && job.operation.isNone then some (.finding job) else none, [])
    | none => some (s, none, [])
  | .finding job, .go _ => some (s, (s.payoutForRequest job).map (.committing job · false), [])
  | _, .go _ | _, .durable _ => none

def Phase.wants : Phase → Option String
  | .locking job => some (exclusionKey job.scope)
  | _ => none

/-- The guard of `start_exclusion` lives until `start_job` returns. -/
def Phase.holds : Phase → List String
  | .recovering job | .starting job | .responding job _ | .committing job _ true | .committed job _ true =>
    [exclusionKey job.scope]
  | _ => []

def worker (federationOf : InviteCode → FederationId) :
    Service Store (Call × Phase) Call Choice Outside (Call × Event) where
  init s := s.jobs = [] ∧ s.native = []
  start _
    | .startJob id scope => some (.startJob id scope, .getting id scope)
    | .status id => some (.status id, .looking id)
  resume s c x := (resume federationOf s c.2 x).map fun r => (r.1, r.2.1.map (c.1, ·), r.2.2.map (c.1, ·))
  outside s
    | .setDestination destination => some ({ s.shared with destination := destination }, [])
    | .crash => some (s.shared, [])
  clears b := b == .crash

def runs (federationOf : InviteCode → FederationId) :
    Machine (Server Store (Call × Phase)) (Turn Call Choice Outside) (Service.Note (Call × Event)) :=
  (worker federationOf).machine (Service.locks (fun c => c.2.wants) fun c => c.2.holds)

end Manifold.Guardian.Payouts
