import Manifold.Lib.Server
import Manifold.Push.Invoke

/-!
# The gateway

The delivery workers (`crates/push-gateway/src/delivery_worker.rs`), the operator's commands and the clients' requests.
-/

namespace Manifold.Push

open Lib

structure Store where
  db : Db := {}
  clock : Int := 0
  issued : List String := []

structure Admin where
  selector : Selector
  dryRun : Bool
  replay : Bool
deriving DecidableEq

inductive Call where
  | deliver
  | admin (a : Admin)

inductive Phase where
  | claiming
  | delivering (d : ClaimedDelivery)
  | corrupted (outboxId claimId : String)
  | succeeding (d : ClaimedDelivery)
  | invalidating (d : ClaimedDelivery) (reason : String)
  | failing (d : ClaimedDelivery) (f : Failure)
  | marking (outboxId claimId : String) (now : Int) (v : Verdict) (reason : String)
  | selecting (a : Admin) (todo found : List String)
  | applying (a : Admin) (now : Int) (ids : List String)
deriving DecidableEq

inductive Delivery where
  | delivered
  | invalidToken (reason : String)
  | invalidPayload (reason : String)
  | unavailable (reason : String)
deriving DecidableEq

inductive Choice where
  | claim (pick claimId : String)
  | idle
  | provider (a : Delivery)
  | go
deriving DecidableEq

inductive Outside where
  | tick (later : Int)
  | restart
  | expire
  | purgeRetained (cutoff idempotencyCutoff : Int)
  | purgeStale (cutoff : Int)
  | purgeTombstones
  | purgeHooks
  | admitInstallation (req : RegisterRequest) (cutoff : Int) (limits : AdmissionLimits) (tie : Registration → Nat)
  | deleteInstallation (recipientId installationId : String)
  | disableInstallation (recipientId installationId : String) (reason : Option String)
  | disableIfTokenMatches (recipientId installationId fcmToken : String) (reason : Option String)
  | admitHook (req : CreateHookRequest) (cutoff : Int) (limits : AdmissionLimits) (draw : HookDraw)
      (tie : Hook → Nat) (tombstoneTie : Tombstone → Nat)
  | revoke (hookId recipientId : String)
  | invoke (p : InvocationPolicy) (i : Invocation)

inductive Event where
  | inserted (outboxId : String)
  | claimed (outboxId claimId : String)
  | replayed (outboxId : String)
  | deleted (outboxId : String)
  | hookCreated (hookId : String)
  | enqueued (hookId : String) (key : Option String) (targetCount : Nat) (now : Int) (windowStart : Option Int)
deriving DecidableEq

def lostRows (before after : Db) : List Event :=
  (before.outbox.filter (fun r => !after.outbox.any (·.outboxId == r.outboxId))).map (fun r => .deleted r.outboxId)

/-! ## The calls -/

def afterDelivery (d : ClaimedDelivery) : Delivery → Phase
  | .delivered => .succeeding d
  | .invalidToken reason => .invalidating d reason
  | .invalidPayload reason => .failing d ⟨reason, .permanentPayload⟩
  | .unavailable reason => .failing d ⟨reason, .transient⟩

def claimDue (env : Env) (s : Store) (pick claimId : String) : Option (Store × Option Phase × List Event) :=
  if claimId ∈ s.issued then none
  else
    (isNextDue s.clock pick s.db).map (fun r =>
      ({ s with db := claimRow s.clock r.outboxId claimId s.db, issued := s.issued ++ [claimId] },
        some (match rowToClaimed env claimId r with
          | some d => .delivering d
          | none => .corrupted r.outboxId claimId),
        [.claimed r.outboxId claimId]))

/-- `mark_failed` up to its choice. A row that is gone ends the call with an error. -/
def chooseVerdict (s : Store) (d : ClaimedDelivery) (f : Failure) : Option Phase :=
  match f.kind with
  | .permanentPayload => some (.marking d.outboxId d.claimId s.clock ⟨false, s.clock⟩ f.reason)
  | .transient =>
    (Table.lookup (·.outboxId) d.outboxId s.db.outbox).map (fun r =>
      .marking d.outboxId d.claimId s.clock (.transient s.clock r.attempts) f.reason)

def selectNext (s : Store) (a : Admin) (found : List String) : List String → Phase
  | id :: rest => .selecting a rest (found ++ (deadLetterById a.selector id s.db).toList)
  | [] =>
    if a.selector.outboxIds.isEmpty then
      .applying a s.clock ((a.selector.limit.map (fun l => oldestDeadLetters a.selector l s.db)).getD [])
    else .applying a s.clock found

def applyAdmin (s : Store) (a : Admin) (now : Int) (ids : List String) : Db × List Event :=
  if a.replay then
    match replayAll s.clock now ids s.db with
    | .ok db => if a.dryRun then (s.db, []) else (db, ids.map .replayed)
    | .error _ => (s.db, [])
  else if a.dryRun then (s.db, [])
  else (deleteAll ids s.db, lostRows s.db (deleteAll ids s.db))

def Store.put (s : Store) (db : Db) : Store := { s with db }

def resume (env : Env) (s : Store) : Phase → Choice → Option (Store × Option Phase × List Event)
  | .claiming, .claim pick claimId => claimDue env s pick claimId
  | .claiming, .idle => if s.db.outbox.any (·.due s.clock) then none else some (s, none, [])
  | .delivering d, .provider a => some (s, some (afterDelivery d a), [])
  | .corrupted outboxId claimId, .go =>
    some (s.put (markCorruptedNotificationDeadLetter s.clock outboxId claimId s.db), none, [])
  | .succeeding d, .go => some (s.put (markSucceeded s.clock s.clock d.outboxId d.claimId s.db), none, [])
  | .invalidating d reason, .go =>
    some (s.put (markInvalidTokenAndDisableRegistration s.clock d reason s.db), none, [])
  | .failing d f, .go => some (s, chooseVerdict s d f, [])
  | .marking outboxId claimId now v reason, .go =>
    some (s.put (markFailed s.clock now outboxId claimId v reason s.db), none, [])
  | .selecting a todo found, .go => some (s, some (selectNext s a found todo), [])
  | .applying a now ids, .go => some (s.put (applyAdmin s a now ids).1, none, (applyAdmin s a now ids).2)
  | _, _ => none

/-! ## Requests and housekeeping -/

def invocationEvents (i : Invocation) (now : Int) (result : Except ApiError InvocationOutcome) (db : Db) : List Event :=
  match result with
  | .ok ⟨targetCount, true⟩ =>
    [.inserted i.outboxId,
     .enqueued i.hookId i.idempotencyKey targetCount now
       ((Table.lookup (·.hookId) i.hookId db.hooks).bind (·.rateLimitWindowStartedAt))]
  | _ => []

def hookEvents : HookAdmission → List Event
  | .created h => [.hookCreated h.hookId]
  | _ => []

def outside (env : Env) (production : Bool) (s : Store) : Outside → Option (Store × List Event)
  | .tick later => if s.clock ≤ later then some ({ s with clock := later }, []) else none
  | .restart => some (s.put (resetInProgress s.clock s.db), [])
  | .expire => some (s.put (expireDeliveryResolutionDeadlines s.clock s.clock s.db), [])
  | .purgeRetained cutoff idempotencyCutoff =>
    let db := purgeRetainedSensitiveData cutoff idempotencyCutoff s.db
    some (s.put db, lostRows s.db db)
  | .purgeStale cutoff => some (s.put (purgeStale cutoff s.db), [])
  | .purgeTombstones => some (s.put (purgeExpired s.clock s.db), [])
  | .purgeHooks => some (s.put (purgeTerminalUnreferenced s.clock s.db), [])
  | .admitInstallation req cutoff limits tie =>
    if cutoff ≤ s.clock then some (s.put (admitInstallation req cutoff s.db s.clock limits tie).2, []) else none
  | .deleteInstallation recipientId installationId => some (s.put (deleteInstallation recipientId installationId s.db), [])
  | .disableInstallation recipientId installationId reason =>
    some (s.put (disableInstallation s.clock recipientId installationId reason s.db), [])
  | .disableIfTokenMatches recipientId installationId fcmToken reason =>
    some (s.put (disableIfTokenMatches s.clock recipientId installationId fcmToken reason s.db), [])
  | .admitHook req cutoff limits draw tie tombstoneTie =>
    let r := admitHook env s.clock cutoff req limits draw tie tombstoneTie s.db
    some (s.put r.2, hookEvents r.1)
  | .revoke hookId recipientId => some (s.put (revoke s.clock hookId recipientId s.db), [])
  | .invoke p i =>
    let r := acceptInvocation env production s.clock p i s.db
    some (s.put r.2, invocationEvents i s.clock r.1 r.2)

def start (_ : Store) : Call → Option Phase
  | .deliver => some .claiming
  | .admin a => (validateDeadLetterSelector a.selector).toOption.map (fun _ => .selecting a a.selector.outboxIds [])

def gateway (env : Env) (production : Bool) : Service Store Phase Call Choice Outside Event where
  init s := s.db = {} ∧ s.issued = []
  start := start
  resume := resume env
  outside s := outside env production s.shared
  clears _ := false

def runs (env : Env) (production : Bool) :
    Machine (Server Store Phase) (Turn Call Choice Outside) (Service.Note Event) :=
  (gateway env production).machine (fun _ _ => true)

def plainEnv : Env where
  encodeData _ := ""
  decodeData _ := some []
  encode _ := ""
  decode _ := some ⟨"alice", "hook", "hook", none, none, []⟩
  hashHex secret := secret
  validateOutbound _ := .ok ()

/-- One installation and one hook, with the given limits on its use. -/
def hookSetup (maxUses : Option Int) : List (Turn Call Choice Outside) :=
  [.outside (.tick 1000),
   .outside (.admitInstallation ⟨"alice", "phone", "token", none⟩ 900 ⟨0, 0, 0, 0⟩ (fun _ => 0)),
   .outside (.admitHook ⟨"alice", "phone", { dataJson := "" }, [], some 60, maxUses, none, none⟩ 900 ⟨0, 0, 0, 0⟩
     ⟨"hook", "secret"⟩ (fun _ => 0) (fun _ => 0))]

def plainInvocation (key : Option String) (eventId outboxId : String) : Turn Call Choice Outside :=
  .outside (.invoke ⟨0, 0, 0, 0, 100⟩ ⟨"hook", "secret", key, [], true, true, eventId, outboxId, fun _ => 0, fun _ => false⟩)

def plainRun (as : List (Turn Call Choice Outside)) : Option (Server Store Phase × List (Service.Note Event)) :=
  (runs plainEnv true).exec { shared := {} } as

theorem plainRun_reaches {as r} (hr : r ∈ plainRun as) : (runs plainEnv true).Reaches r.2 r.1 :=
  Machine.reaches_of_exec (M := runs plainEnv true) ⟨⟨rfl, rfl⟩, rfl, rfl⟩ hr

theorem steps_of_runs {env production s t a out} (h : (runs env production).step s a = some (t, out)) :
    Service.Steps (gateway env production) (fun _ _ => true) s a t out :=
  Service.steps_of_step (S := gateway env production) h

end Manifold.Push
