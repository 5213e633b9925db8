import Manifold.Lib.Task
import Manifold.Push.Hooks

/-!
# Invocations of a hook

`accept_invocation` (`crates/push-gateway/src/invoke_hook.rs`). Every early return drops the transaction.
-/

namespace Manifold.Push

open Lib

/-- The statements of the transaction, each of which the database may fail. -/
inductive Statement where
  | readHook
  | readTombstone
  | readTarget
  | reserveKey
  | useHook
  | countBacklog
  | insertEvent
  | insertTombstone
  | insertOutbox
  | commit

/-- A request, and what the outside adds: the answers of the limiters, the ids that are drawn, the order of equal
rows, and the statements that fail. -/
structure Invocation where
  hookId : String
  hookSecret : String
  idempotencyKey : Option String
  data : List (String × Value)
  sourceAdmitted : Bool
  hookAdmitted : Bool
  eventId : String
  outboxId : String
  tie : Tombstone → Nat
  fails : Statement → Bool

/-- `InvocationPolicy` without the production mode and the limits in memory. -/
structure InvocationPolicy where
  maxGlobalOutboxBacklog : Nat
  maxRecipientOutboxBacklog : Nat
  maxIdempotencyRowsGlobal : Nat
  idempotencyReclamationBatchSize : Nat
  registrationTtl : Nat

structure InvocationOutcome where
  targetCount : Nat
  enqueuedRows : Bool

def internalServerError : ApiError := ⟨500, "internal_error", "internal server error"⟩

def hookNotFound : ApiError := ⟨404, "hook_not_found", "hook not found"⟩

def Invocation.attempt (i : Invocation) (st : Statement) : Except ApiError Unit :=
  if i.fails st then .error internalServerError else .ok ()

/-! ## The policy of a hook -/

inductive HookUseOutcome where
  | accepted
  | notFound
  | expired
  | revoked
  | maxUsesExceeded
  | rateLimited
deriving DecidableEq

def classifyHookCapabilityTerminated (h : Hook) (now : Int) : Option HookUseOutcome :=
  if h.revokedAt.isSome then some .revoked
  else if h.expiresAt.any (· ≤ now) then some .expired
  else none

def Hook.rateLimited (h : Hook) (now : Int) : Bool :=
  match h.rateLimitWindowSeconds, h.rateLimitMaxRequests, h.rateLimitWindowStartedAt with
  | some window, some maxRequests, some startedAt =>
    decide (now < startedAt + window) && decide (maxRequests ≤ h.rateLimitCount)
  | _, _, _ => false

def classifyHookBeforeTarget (h : Hook) (now : Int) : Option HookUseOutcome :=
  (classifyHookCapabilityTerminated h now).or
    (if h.maxUses.any (· ≤ h.useCount) then some .maxUsesExceeded
     else if h.rateLimited now then some .rateLimited
     else none)

def rejectionToError : HookUseOutcome → ApiError
  | .accepted => ⟨409, "hook_conflict", "hook conflict"⟩
  | .notFound => hookNotFound
  | .expired => ⟨410, "hook_expired", "hook expired"⟩
  | .revoked => ⟨410, "hook_revoked", "hook revoked"⟩
  | .maxUsesExceeded => ⟨429, "hook_max_uses_exceeded", "hook max uses exceeded"⟩
  | .rateLimited => ⟨429, "hook_rate_limited", "hook rate limited"⟩

def refuse : Option HookUseOutcome → Except ApiError Unit
  | some rejection => .error (rejectionToError rejection)
  | none => .ok ()

/-! ## The conditional update -/

namespace Hook

variable (production : Bool) (now : Int) (h : Hook)

/-- `CASE WHEN production AND (window IS NULL OR window < default) THEN default ELSE window END`. -/
def effectiveWindow : Option Int :=
  if production && h.rateLimitWindowSeconds.all (· < defaultRateLimitWindowSeconds) then
    some defaultRateLimitWindowSeconds
  else h.rateLimitWindowSeconds

/-- `CASE WHEN production AND (max IS NULL OR max > default) THEN default ELSE max END`. -/
def effectiveMaxRequests : Option Int :=
  if production && h.rateLimitMaxRequests.all (· > defaultRateLimitMaxRequests) then
    some defaultRateLimitMaxRequests
  else h.rateLimitMaxRequests

/-- `NOT production AND (window IS NULL OR max IS NULL)`. -/
def unlimited : Bool := !production && (h.rateLimitWindowSeconds.isNone || h.rateLimitMaxRequests.isNone)

/-- The window is over, or none has started. A comparison with `NULL` does not hold. -/
def windowOver : Bool :=
  match h.rateLimitWindowStartedAt, h.effectiveWindow production with
  | none, _ => true
  | some startedAt, some window => decide (startedAt + window ≤ now)
  | some _, none => false

def usable : Bool :=
  h.revokedAt.isNone && h.expiresAt.all (now < ·) && h.maxUses.all (h.useCount < ·) &&
    (h.unlimited production || h.windowOver production now ||
      (h.effectiveMaxRequests production).any (h.rateLimitCount < ·))

def used : Hook :=
  { h with
    useCount := h.useCount + 1
    lastUsedAt := some now
    rateLimitWindowStartedAt :=
      if h.unlimited production || h.windowOver production now then some now else h.rateLimitWindowStartedAt
    rateLimitCount :=
      if h.unlimited production then 0 else if h.windowOver production now then 1 else h.rateLimitCount + 1 }

end Hook

/-! ## The stages of the transaction -/

section stages

variable (env : Env) (production : Bool) (now : Int) (p : InvocationPolicy) (i : Invocation)

def authenticate (db : Db) : Except ApiError (Hook × List (String × Value)) :=
  match Table.lookup (·.hookId) i.hookId db.hooks with
  | none => .error hookNotFound
  | some h =>
    if h.hookSecretHash = env.hashHex i.hookSecret then
      match env.decodeData h.content.dataJson with
      | some data => .ok (h, data)
      | none => .error internalServerError
    else .error hookNotFound

def replayedTargetCount (db : Db) : Option Nat := i.idempotencyKey.bind (fun key => retainedTargetCount i.hookId key db)

def registrationCutoff : Int := now - p.registrationTtl

def eligibleTarget (h : Hook) (db : Db) : Except ApiError Registration :=
  match eligibleInstallation h.recipientId h.installationId (registrationCutoff now p) db with
  | some r => .ok r
  | none => .error ⟨503, "target_installation_unavailable", "target installation is temporarily unavailable"⟩

def reserveKey (db : Db) : Except ApiError Db :=
  if i.idempotencyKey.isNone then .ok db
  else
    let purged := purgeExpiredInTransaction now p.idempotencyReclamationBatchSize i.tie db
    if p.maxIdempotencyRowsGlobal = 0 ∨ purged.tombstones.length < p.maxIdempotencyRowsGlobal then .ok purged
    else .error ⟨503, "idempotency_capacity_exceeded", "hook idempotency capacity is temporarily unavailable"⟩

def enforceInvocationRateLimits : Except ApiError Unit :=
  if !i.sourceAdmitted then .error ⟨429, "source_rate_limited", "source rate limited"⟩
  else if !i.hookAdmitted then .error ⟨429, "hook_rate_limited", "hook rate limited"⟩
  else .ok ()

def verifyWithoutMarkingUsed (db : Db) : HookUseOutcome :=
  match Table.lookup (·.hookId) i.hookId db.hooks with
  | none => .notFound
  | some h =>
    if h.hookSecretHash = env.hashHex i.hookSecret then (classifyHookBeforeTarget h now).getD .accepted
    else .notFound

def unusedError (db : Db) : ApiError :=
  let outcome := verifyWithoutMarkingUsed env now i db
  if production && outcome == .accepted then ⟨429, "hook_rate_limited", "hook rate limited"⟩
  else rejectionToError outcome

def useHook (db : Db) : Except ApiError Db :=
  if db.hooks.any (fun h => h.hookId == i.hookId && h.usable production now) then
    .ok { db with
      hooks := Table.update (fun h => h.hookId == i.hookId && h.usable production now) (·.used production now) db.hooks }
  else .error (unusedError env production now i db)

def insertData (data : List (String × Value)) (key : String) (value : Value) : List (String × Value) :=
  if data.any (·.1 == key) then Table.update (·.1 == key) (fun _ => (key, value)) data else data ++ [(key, value)]

def insertOptional (data : List (String × Value)) (key : String) : Option String → List (String × Value)
  | some s => insertData data key (.string s)
  | none => data

/-- `notification_from_hook_and_request`; the id carries the number of the use. -/
def notificationFromHookAndRequest (h : Hook) (data : List (String × Value)) : Notification :=
  let c := h.content
  let data := insertData data "pg.open_behavior" (.string c.openBehavior.asStr)
  let data := insertData data "pg.privacy" (.string c.privacy.asStr)
  let data := insertOptional data "pg.workflow" c.workflow
  let data := insertOptional data "pg.action" c.action
  let data := insertOptional data "pg.deep_link" c.deepLink
  { recipientId := h.recipientId
    notificationId := "hook:" ++ h.hookId ++ ":" ++ toString (h.useCount + 1)
    kind := c.kind.getD "hook"
    title := if c.privacy = .dataOnly then none else c.title
    body := if c.privacy = .dataOnly then none else c.body
    data := i.data.foldl (fun data entry => insertData data entry.1 entry.2) data }

def enforceOutboxBacklogCaps (recipientId : String) (newRows : Nat) (db : Db) : Except ApiError Unit :=
  if newRows = 0 then .ok ()
  else if 0 < p.maxGlobalOutboxBacklog ∧ p.maxGlobalOutboxBacklog < db.outbox.countP (·.status.active) + newRows then
    .error ⟨503, "outbox_backlog_full", "outbox backlog full"⟩
  else if 0 < p.maxRecipientOutboxBacklog ∧
      p.maxRecipientOutboxBacklog <
        db.outbox.countP (fun r => r.recipientId == recipientId && r.status.active) + newRows then
    .error ⟨429, "recipient_outbox_backlog_full", "recipient outbox backlog full"⟩
  else .ok ()

/-- The event keeps the primary key and `UNIQUE (hook_id, caller_idempotency_key)`. -/
def EventRow.insertable (e : EventRow) (db : Db) : Bool :=
  !db.events.any (fun e' => e'.eventId == e.eventId ||
    e'.hookId == e.hookId && e.callerIdempotencyKey.isSome && e'.callerIdempotencyKey == e.callerIdempotencyKey)

def newEvent (recipientId notificationJson : String) : EventRow :=
  { eventId := i.eventId, hookId := i.hookId, callerIdempotencyKey := i.idempotencyKey, recipientId
    notificationJson, targetCount := 1, createdAt := now }

def insertEvent (e : EventRow) (db : Db) : Except ApiError Db :=
  if e.insertable db then .ok { db with events := db.events ++ [e] } else .error internalServerError

def recordKey (targetCount : Nat) (expiresAt : Option Int) (db : Db) : Except ApiError Db :=
  match i.idempotencyKey with
  | none => .ok db
  | some key =>
    if db.tombstones.any (·.at i.hookId key) then .error internalServerError
    else .ok { db with tombstones := db.tombstones ++ [tombstoneOf i.hookId key targetCount now expiresAt] }

def newDelivery (eventId outboxId notificationJson : String) (r : Registration) : OutboxRow :=
  { outboxId, eventId, recipientId := r.recipientId, installationId := r.installationId, fcmToken := r.fcmToken
    platform := r.platform, notificationJson, status := .pending, attempts := 0, nextAttemptAt := now
    createdAt := now, updatedAt := now }

/-- The row keeps the primary key and `UNIQUE (event_id, recipient_id, installation_id)`. -/
def insertDelivery (r : OutboxRow) (db : Db) : Except ApiError Db :=
  if db.outbox.any (fun r' => r'.outboxId == r.outboxId ||
      r'.eventId == r.eventId && r'.recipientId == r.recipientId && r'.installationId == r.installationId) then
    .error internalServerError
  else .ok { db with outbox := db.outbox ++ [r] }

def enqueue (h : Hook) (data : List (String × Value)) (r : Registration) (db : Db) : Except ApiError Db := do
  let n := notificationFromHookAndRequest i h data
  i.attempt .countBacklog
  enforceOutboxBacklogCaps p n.recipientId 1 db
  env.validateOutbound n
  i.attempt .insertEvent
  let db ← insertEvent (newEvent now i n.recipientId (env.encode n)) db
  i.attempt .insertTombstone
  let db ← recordKey now i 1 h.expiresAt db
  i.attempt .insertOutbox
  insertDelivery (newDelivery now i.eventId i.outboxId (env.encode n) r) db

def acceptNew (h : Hook) (data : List (String × Value)) (db : Db) : Except ApiError (InvocationOutcome × Db) := do
  refuse (classifyHookBeforeTarget h now)
  i.attempt .readTarget
  let r ← eligibleTarget now p h db
  i.attempt .reserveKey
  let db ← reserveKey now p i db
  enforceInvocationRateLimits i
  i.attempt .useHook
  let db ← useHook env production now i db
  let db ← enqueue env now p i h data r db
  i.attempt .commit
  return (⟨1, true⟩, db)

def invocationBody (db : Db) : Except ApiError (InvocationOutcome × Db) := do
  i.attempt .readHook
  let (h, data) ← authenticate env i db
  refuse (classifyHookCapabilityTerminated h now)
  i.attempt .readTombstone
  match replayedTargetCount i db with
  | some targetCount => (i.attempt .commit).map (fun _ => (⟨targetCount, false⟩, db))
  | none => acceptNew env production now p i h data db

def acceptInvocation (db : Db) : Except ApiError InvocationOutcome × Db :=
  match invocationBody env production now p i db with
  | .ok (outcome, db') => (.ok outcome, db')
  | .error e => (.error e, db)

end stages

end Manifold.Push
