import Manifold.Liquidity.Daemon
import Manifold.Liquidity.Public

/-!
# Runtime generations

`daemon.rs` and `backup.rs`. An admin call that holds no connection when the pool closes goes on without its database.
-/

namespace Manifold.Liquidity

open Lib

/-! ## What a restore must preserve -/

structure AllocationIdentity where
  requesterPubkey : Pubkey
  providerPubkey : Pubkey
  network : BitcoinNetwork
  detailsPayloadHash : String
deriving DecidableEq

def Allocation.identity (a : Allocation) : AllocationIdentity where
  requesterPubkey := a.requesterPubkey
  providerPubkey := a.providerPubkey
  network := a.network
  detailsPayloadHash := a.detailsPayloadHash

def Db.allocationIdentities (db : Db) : List (FederationId × AllocationIdentity) :=
  (db.allocations.insertionSort (fun a b => a.federationId ≤ b.federationId)).map (fun a => (a.federationId, a.identity))

namespace AllocationAdmission

variable (admission : AllocationAdmission)

def acceptsNewAllocation : Bool := admission = .open

def ensureAcceptsLiveRestore : ServiceResult Unit :=
  match admission with
  | .open => .ok ()
  | .closingForRestore =>
    .error (unavailable "the captured runtime generation is already closing for live restore")

def closeForLiveRestore : ServiceResult AllocationAdmission := do
  admission.ensureAcceptsLiveRestore
  return .closingForRestore

end AllocationAdmission

def ensurePreserves (staged : List (FederationId × AllocationIdentity)) (running : FederationId × AllocationIdentity) :
    ServiceResult Unit :=
  match staged.lookup running.1 with
  | some restored =>
    if restored = running.2 then .ok ()
    else
      .error (failedPrecondition ("live restore refused: archive replaces the accepted allocation for federation " ++
        running.1 ++ "; use an archive that contains the current allocation history or keep the running generation"))
  | none =>
    .error (failedPrecondition ("live restore refused: archive predates the accepted allocation for federation " ++
      running.1 ++ "; use an archive that contains the current allocation history or keep the running generation"))

def ensurePreservesLiveAllocations (staged running : Db) (admission : AllocationAdmission) : ServiceResult Unit := do
  admission.ensureAcceptsLiveRestore
  running.allocationIdentities.forM (ensurePreserves staged.allocationIdentities)

/-! ## Startup recovery -/

structure RecoverySnapshot where
  activeAllocationItems : List ItemId := []
  activeWalletOperations : List OperationId := []

/-- `run_startup_recovery` takes an inventory and changes nothing the workers read. -/
def Db.runStartupRecovery (db : Db) : RecoverySnapshot where
  activeAllocationItems :=
    ((db.items.filter (·.status.active)).insertionSort
      (fun i j => i.updatedAt < j.updatedAt ∨ i.updatedAt = j.updatedAt ∧ i.itemId ≤ j.itemId)).map (·.itemId)
  activeWalletOperations :=
    ((db.operations.filter (·.status.pendingSettlement)).insertionSort
      (fun r s => r.updatedAt < s.updatedAt ∨ r.updatedAt = s.updatedAt ∧ r.operationId ≤ s.operationId)).map
        (·.operationId)

/-! ## The process -/

structure Orphan where
  generation : Nat
  thread : Thread

structure Process where
  daemon : Daemon
  generation : Nat := 0
  admission : AllocationAdmission := .open
  pendingRestore : Option Db := none
  archives : List Db := []
  orphans : List Orphan := []
  recovered : RecoverySnapshot := {}

inductive ProcessAct where
  | act (a : Act)
  | orphan (number : Nat) (x : Outside)
  | createBackup
  | restoreBackup (archive : Nat)
  /-- The generation is torn down and the pending restore committed. -/
  | commitRestore
  /-- The generation is torn down, and the next one comes up on the previous state. -/
  | rollbackRestore

structure GenNote where
  generation : Nat
  caller : Caller
  event : Event
deriving DecidableEq

abbrev RestoreGuard := Db → Db → Bool

def anyRestore : RestoreGuard := fun _ _ => true

def noted (generation : Nat) (caller : Caller) (out : List Event) : List GenNote :=
  out.map (fun ev => ⟨generation, caller, ev⟩)

def genNotes (generation : Nat) (out : List Note) : List GenNote := out.map (fun n => ⟨generation, n.1, n.2⟩)

namespace Process

variable (s : Process)

def gate : Guard := fun _ e x =>
  match e with
  | .query .acceptsNewAllocation => x.acceptsNewAllocation == s.admission.acceptsNewAllocation
  | _ => true

/-- A call between the gate and its commit holds the read side of the gate. -/
def admitting (t : Thread) : Bool :=
  match t.task with
  | .await _ (.acceptRequest ..) _ => true
  | _ => false

def passing : Bool := s.daemon.threads.any (·.caller.worker.isSome)

def requestRestore (staged : Db) : ServiceResult Process :=
  if s.pendingRestore.isSome then .error (unavailable "another live restore is already pending")
  else do
    let admission ← s.admission.closeForLiveRestore
    return { s with admission := admission, pendingRestore := some staged }

def restoreBackup (staged : Db) : ServiceResult Process := do
  ensurePreservesLiveAllocations staged s.daemon.world.db s.admission
  s.requestRestore staged

/-- The next generation starts on `db`. The workers have ended their passes; what is left of the old one are
calls of the Admin API. -/
def replaced (generation : Nat) (db : Db) : Process :=
  { s with
    daemon := ⟨{ s.daemon.world with db := db, loadedGateway := [], loadedStability := [] }, [], s.daemon.next⟩
    generation := generation
    admission := .open
    pendingRestore := none
    orphans := s.orphans ++ s.daemon.threads.map (⟨s.generation, ·⟩)
    recovered := db.runStartupRecovery }

def resumeOrphan (o : Orphan) (x : Outside) : Option (Process × List GenNote) :=
  match o.thread.task with
  | .done _ _ => none
  | .await _ e k =>
    match handler e s.daemon.world { x with dbFails := true } with
    | none => none
    | some (r, w, out) =>
      some ({ s with
          daemon := { s.daemon with world := w }
          orphans := s.orphans.map (fun o' =>
            if o'.thread.caller = o.thread.caller then ⟨o.generation, o.thread.caller, k r⟩ else o') },
        noted o.generation o.thread.caller out)

end Process

def processStep (env : Env) (guard : RestoreGuard) (s : Process) : ProcessAct → Option (Process × List GenNote)
  | .act .crash =>
    (step env anyStep s.daemon .crash).map (fun r =>
      ({ s with
          daemon := r.1
          admission := .open
          pendingRestore := none
          orphans := []
          recovered := r.1.world.db.runStartupRecovery }, []))
  | .act a => (step env s.gate s.daemon a).map (fun r => ({ s with daemon := r.1 }, genNotes s.generation r.2))
  | .orphan number x =>
    (s.orphans.find? (fun o => o.thread.caller.number = number)).bind (fun o => s.resumeOrphan o x)
  | .createBackup =>
    -- the barrier waits for the passes that are running
    if s.passing then none else some ({ s with archives := s.archives ++ [s.daemon.world.db] }, [])
  | .restoreBackup n =>
    if s.daemon.threads.any Process.admitting then none
    else
      match s.archives[n]? with
      | none => none
      | some staged =>
        match s.restoreBackup staged with
        | .ok s' => some (s', [])
        | .error _ => some (s, [])
  | .commitRestore =>
    match s.pendingRestore with
    | none => none
    | some db =>
      if s.passing || !guard s.daemon.world.db db then none
      else some (s.replaced (s.generation + 1) db, [])
  | .rollbackRestore =>
    if s.pendingRestore.isNone || s.passing then none
    else some (s.replaced s.generation s.daemon.world.db, [])

def generations (env : Env) (guard : RestoreGuard) : Machine Process ProcessAct GenNote where
  init s := s.daemon.world = {} ∧ s.daemon.threads = [] ∧ s.daemon.next = 0 ∧ s.generation = 0 ∧ s.archives = [] ∧
    s.orphans = [] ∧ s.pendingRestore = none
  step := processStep env guard

/-! ## Sends across generations -/

def Event.allowsRetry (o : OperationId) : Event → Bool
  | .resolved o' .safeToRetry => o' = o
  | .retried o' => o' = o
  | _ => false

def CreatedFor (es : List GenNote) (o : OperationId) (intent : String) : Prop :=
  ∃ n ∈ es, ∃ row, n.event = .operationCreated row ∧ row.operationId = o ∧ row.withdrawalIntentId = some intent

def SamePayment (es : List GenNote) (p q : PreparedWithdrawal) : Prop :=
  p.operationId = q.operationId ∨ ∃ intent, CreatedFor es p.operationId intent ∧ CreatedFor es q.operationId intent

def keepsSends : RestoreGuard := fun running archive =>
  running.operations.all (fun r =>
    !r.operationType.outgoing ||
      archive.operations.any (fun r' =>
        r'.operationId = r.operationId && r'.operationType = r.operationType &&
          r'.withdrawalIntentId = r.withdrawalIntentId && r'.status ≠ .pending))

end Manifold.Liquidity
