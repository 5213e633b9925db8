import Manifold.Push.Registrations

/-!
# Notification hooks

`HookRepository` and `HookIdempotencyRepository` (`crates/push-gateway-storage/src`). A hook is deleted only when it
has no event left, so the cascade reaches its tombstones alone.
-/

namespace Manifold.Push

open Lib

def defaultRateLimitWindowSeconds : Int := 3600

def defaultRateLimitMaxRequests : Int := 2

def maxHookLifetimeSeconds : Int := 31536000

def idempotencyCleanupMarginSeconds : Int := 7 * 86400

/-! ## Tombstones -/

def Tombstone.at (hookId key : String) (t : Tombstone) : Bool := t.hookId == hookId && t.callerIdempotencyKey == key

def retainedTargetCount (hookId key : String) (db : Db) : Option Nat :=
  (db.tombstones.find? (·.at hookId key)).map (·.targetCount.toNat)

def purgeExpiredInTransaction (now : Int) (batchSize : Nat) (tie : Tombstone → Nat) (db : Db) : Db :=
  if batchSize = 0 then db
  else
    let victims := firstBy (·.retainUntil) tie (toLimit batchSize) (db.tombstones.filter (·.retainUntil < now))
    { db with tombstones := db.tombstones.filter (fun t => !victims.any (·.at t.hookId t.callerIdempotencyKey)) }

def purgeExpired (now : Int) (db : Db) : Db :=
  { db with tombstones := db.tombstones.filter (fun t => !decide (t.retainUntil < now)) }

def tombstoneOf (hookId key : String) (targetCount : Nat) (acceptedAt : Int) (hookExpiresAt : Option Int) : Tombstone :=
  { hookId, callerIdempotencyKey := key, targetCount, acceptedAt
    retainUntil := max (hookExpiresAt.getD (acceptedAt + maxHookLifetimeSeconds)) acceptedAt +
      idempotencyCleanupMarginSeconds }

/-! ## Hooks -/

def Hook.terminated (now : Int) (h : Hook) : Bool := h.expiresAt.any (· ≤ now) || h.revokedAt.isSome

def Db.unreferenced (db : Db) (h : Hook) : Bool := !db.events.any (·.hookId == h.hookId)

def deleteHooks (p : Hook → Bool) (db : Db) : Db :=
  { db with
    hooks := db.hooks.filter (fun h => !p h)
    tombstones := db.tombstones.filter (fun t => !db.hooks.any (fun h => p h && h.hookId == t.hookId)) }

def purgeTerminalUnreferenced (now : Int) (db : Db) : Db :=
  deleteHooks (fun h => h.terminated now && db.unreferenced h) db

def purgeTerminalInTransaction (now : Int) (batchSize : Nat) (tie : Hook → Nat) (tombstoneTie : Tombstone → Nat)
    (db : Db) : Db :=
  if batchSize = 0 then db
  else
    let db := purgeExpiredInTransaction now batchSize tombstoneTie db
    let victims := firstBy (·.createdAt) tie (toLimit batchSize)
      (db.hooks.filter (fun h => h.terminated now && db.unreferenced h))
    deleteHooks (fun h => victims.any (·.hookId == h.hookId)) db

def revoke (now : Int) (hookId recipientId : String) (db : Db) : Db :=
  { db with
    hooks := Table.update (fun h => h.hookId == hookId && h.recipientId == recipientId)
      (fun h => { h with revokedAt := h.revokedAt.or (some now) }) db.hooks }

structure CreateHookRequest where
  recipientId : String
  installationId : String
  content : HookContent
  data : List (String × Value)
  expiresInSeconds : Option Int
  maxUses : Option Int
  windowSeconds : Option Int
  maxRequests : Option Int

structure HookDraw where
  hookId : String
  secret : String

inductive HookAdmission where
  | created (h : Hook)
  | targetUnavailable
  | recipientCapacityExceeded
  | globalCapacityExceeded
  | globalRowCapacityExceeded
  | sqlError

def newHook (env : Env) (now : Int) (req : CreateHookRequest) (draw : HookDraw) : Hook :=
  { hookId := draw.hookId
    hookSecretHash := env.hashHex draw.secret
    recipientId := req.recipientId
    installationId := req.installationId
    content := { req.content with dataJson := env.encodeData req.data }
    createdAt := now
    expiresAt := req.expiresInSeconds.bind (fun s => if 0 < s then some (now + s) else none)
    maxUses := req.maxUses.filter (0 < ·)
    rateLimitWindowSeconds := req.windowSeconds.or (some defaultRateLimitWindowSeconds)
    rateLimitMaxRequests := req.maxRequests.or (some defaultRateLimitMaxRequests) }

/-- The row keeps the keys and the `CHECK`s of the table. -/
def Hook.insertable (h : Hook) (db : Db) : Bool :=
  !db.hooks.any (fun h' => h'.hookId == h.hookId || h'.hookSecretHash == h.hookSecretHash) &&
    h.rateLimitWindowSeconds.any (0 < ·) && h.rateLimitMaxRequests.any (0 < ·)

def activeHooks (now : Int) (recipientId : Option String) (db : Db) : Nat :=
  db.hooks.countP (fun h => recipientId.all (· == h.recipientId) && !h.terminated now)

def hookRefusal (now cutoff : Int) (req : CreateHookRequest) (limits : AdmissionLimits) (db : Db) :
    Option HookAdmission :=
  if (eligibleInstallation req.recipientId req.installationId cutoff db).isNone then some .targetUnavailable
  else if 0 < limits.maxActivePerRecipient ∧
      limits.maxActivePerRecipient ≤ activeHooks now (some req.recipientId) db then some .recipientCapacityExceeded
  else if 0 < limits.maxActiveGlobal ∧ limits.maxActiveGlobal ≤ activeHooks now none db then
    some .globalCapacityExceeded
  else if 0 < limits.maxTotalRows ∧ limits.maxTotalRows ≤ db.hooks.length then some .globalRowCapacityExceeded
  else none

def admitHook (env : Env) (now cutoff : Int) (req : CreateHookRequest) (limits : AdmissionLimits) (draw : HookDraw)
    (tie : Hook → Nat) (tombstoneTie : Tombstone → Nat) (db : Db) : HookAdmission × Db :=
  let purged := purgeTerminalInTransaction now limits.reclamationBatchSize tie tombstoneTie db
  let h := newHook env now req draw
  match hookRefusal now cutoff req limits purged with
  | some refusal => (refusal, db)
  | none =>
    if h.insertable purged && (env.decodeData h.content.dataJson).isSome then
      (.created h, { purged with hooks := purged.hooks ++ [h] })
    else (.sqlError, db)

end Manifold.Push
