import Manifold.Push.Tables

/-!
# The delivery outbox

`crates/push-gateway-storage/src/delivery_outbox.rs`. Each statement reads the database clock, `clock` below; `now` is
the reading of the process that issues it.
-/

namespace Manifold.Push

open Lib

def maxDeliveryAttempts : Int := 5

def deliveryResolutionDeadlineSeconds : Int := 300

def inProgressLeaseSeconds : Int := 300

def maxDeadLetterAdminSelection : Nat := 1000

/-- `created_at > database_now - deadline`. -/
def OutboxRow.beforeDeadline (clock : Int) (r : OutboxRow) : Bool :=
  r.createdAt > clock - deliveryResolutionDeadlineSeconds

/-! ## What the statements write into a row -/

namespace OutboxRow

variable (now : Int) (r : OutboxRow)

def reset : OutboxRow := { r with status := .pending, updatedAt := now }

def expired : OutboxRow :=
  { r with status := .deadLetter, nextAttemptAt := now, updatedAt := now,
           lastError := some "resolution_deadline_exceeded", claimId := none }

def claimed (claimId : String) : OutboxRow :=
  { r with status := .inProgress, claimId := some claimId, nextAttemptAt := now + inProgressLeaseSeconds,
           updatedAt := now }

def succeeded : OutboxRow :=
  { r with status := .succeeded, claimId := none, lastAttemptAt := some now, updatedAt := now, lastError := none }

def attempted (status : Status) (nextAttemptAt : Int) (lastError : String) : OutboxRow :=
  { r with status, attempts := r.attempts + 1, nextAttemptAt, lastAttemptAt := some now, updatedAt := now,
           lastError := some lastError, claimId := none }

/-- `mark_failed_query`: past the deadline, the row is a dead letter whatever the failure was. -/
def failed (clock : Int) (status : Status) (nextAttemptAt : Int) (lastError : String) : OutboxRow :=
  if r.createdAt ≤ clock - deliveryResolutionDeadlineSeconds then
    r.attempted now .deadLetter now "resolution_deadline_exceeded"
  else r.attempted now status nextAttemptAt lastError

def replayed : OutboxRow := { r with status := .pending, claimId := none, nextAttemptAt := now, updatedAt := now }

end OutboxRow

/-! ## Startup and deadlines -/

def resetInProgress (now : Int) (db : Db) : Db :=
  { db with outbox := Table.update (fun r => r.status == .inProgress) (·.reset now) db.outbox }

def expireDeliveryResolutionDeadlines (clock now : Int) (db : Db) : Db :=
  { db with
    outbox := Table.update
      (fun r => r.status.active && decide (r.createdAt ≤ clock - deliveryResolutionDeadlineSeconds))
      (·.expired now) db.outbox }

/-! ## Claims -/

structure ClaimedDelivery where
  outboxId : String
  registration : Registration
  notification : Notification
  claimId : String
  createdAt : Int
deriving DecidableEq

/-- `status IN ('pending', 'retrying') OR status = 'in_progress' AND next_attempt_at <= now`. -/
def OutboxRow.claimable (now : Int) (r : OutboxRow) : Bool :=
  r.status == .pending || r.status == .retrying || r.status == .inProgress && decide (r.nextAttemptAt ≤ now)

def OutboxRow.due (now : Int) (r : OutboxRow) : Bool := r.claimable now && decide (r.nextAttemptAt ≤ now)

/-- `ORDER BY next_attempt_at ASC, created_at ASC`. -/
def OutboxRow.noLater (r r' : OutboxRow) : Bool :=
  r.nextAttemptAt < r'.nextAttemptAt || r.nextAttemptAt == r'.nextAttemptAt && r.createdAt ≤ r'.createdAt

def rowToClaimed (env : Env) (claimId : String) (r : OutboxRow) : Option ClaimedDelivery :=
  (env.decode r.notificationJson).map (fun notification =>
    { outboxId := r.outboxId
      registration :=
        { recipientId := r.recipientId, installationId := r.installationId, fcmToken := r.fcmToken,
          platform := r.platform, createdAt := r.createdAt, updatedAt := r.createdAt, lastSeenAt := r.createdAt }
      notification, claimId, createdAt := r.createdAt })

/-- The row that the `SELECT` of `claim_due` may return: `pick` settles what its order leaves open. -/
def isNextDue (now : Int) (pick : String) (db : Db) : Option OutboxRow :=
  db.outbox.find? (fun r => r.outboxId == pick && r.due now && (db.outbox.filter (·.due now)).all r.noLater)

def claimRow (now : Int) (outboxId claimId : String) (db : Db) : Db :=
  { db with outbox := Table.update (fun r => r.outboxId == outboxId && r.claimable now) (·.claimed now claimId) db.outbox }

/-! ## Marks -/

/-- `outbox_id = .. AND claim_id = .. AND status = 'in_progress'`. -/
def OutboxRow.heldBy (outboxId claimId : String) (r : OutboxRow) : Bool :=
  r.outboxId == outboxId && r.claimId == some claimId && r.status == .inProgress

def markSucceeded (clock now : Int) (outboxId claimId : String) (db : Db) : Db :=
  { db with
    outbox := Table.update (fun r => r.heldBy outboxId claimId && r.beforeDeadline clock) (·.succeeded now)
      db.outbox }

inductive FailureKind where
  | permanentPayload
  | transient
deriving DecidableEq

structure Failure where
  reason : String
  kind : FailureKind
deriving DecidableEq

def backoffSeconds (attempts : Int) : Int :=
  if attempts = 0 ∨ attempts = 1 then 1
  else if attempts = 2 then 5
  else if attempts = 3 then 30
  else 300

structure Verdict where
  retry : Bool
  nextAttemptAt : Int
deriving DecidableEq

def Verdict.status (v : Verdict) : Status := if v.retry then .retrying else .deadLetter

def Verdict.transient (now attempts : Int) : Verdict :=
  if attempts + 1 ≥ maxDeliveryAttempts then ⟨false, now⟩
  else ⟨true, now + backoffSeconds (attempts + 1)⟩

def markFailed (clock now : Int) (outboxId claimId : String) (v : Verdict) (reason : String) (db : Db) : Db :=
  { db with
    outbox := Table.update (·.heldBy outboxId claimId) (·.failed now clock v.status v.nextAttemptAt reason)
      db.outbox }

/-- `COALESCE(disabled_at, now)` and `COALESCE(disabled_reason, reason)`. -/
def Registration.disabled (now : Int) (reason : Option String) (r : Registration) : Registration :=
  { r with disabledAt := r.disabledAt.or (some now), disabledReason := r.disabledReason.or reason }

def disableIfTokenMatches (now : Int) (recipientId installationId fcmToken : String) (reason : Option String)
    (db : Db) : Db :=
  { db with
    registrations := Table.update
      (fun r => r.recipientId == recipientId && r.installationId == installationId && r.fcmToken == fcmToken)
      (·.disabled now reason) db.registrations }

def markInvalidTokenAndDisableRegistration (now : Int) (d : ClaimedDelivery) (reason : String) (db : Db) : Db :=
  if db.outbox.any (·.heldBy d.outboxId d.claimId) then
    disableIfTokenMatches now d.registration.recipientId d.registration.installationId d.registration.fcmToken
      (some reason)
      { db with
        outbox := Table.update (·.heldBy d.outboxId d.claimId) (·.attempted now .invalidToken now reason)
          db.outbox }
  else db

def markCorruptedNotificationDeadLetter (now : Int) (outboxId claimId : String) (db : Db) : Db :=
  { db with
    outbox := Table.update (·.heldBy outboxId claimId)
      (·.attempted now .deadLetter now "notification_json_invalid") db.outbox }

/-! ## Dead letters -/

structure Selector where
  outboxIds : List String
  limit : Option Int
  reason : Option String
deriving DecidableEq

def validateAdminLimit (limit : Int) : Except String Unit :=
  if 1 ≤ limit ∧ limit ≤ maxDeadLetterAdminSelection then .ok ()
  else .error "dead-letter admin limit must be between 1 and 1000"

def validateDeadLetterSelector (s : Selector) : Except String Unit :=
  if maxDeadLetterAdminSelection < s.outboxIds.length then .error "too many outbox ids in selector"
  else if s.outboxIds.dedup.length ≠ s.outboxIds.length then .error "duplicate outbox ids in selector"
  else
    match s.limit with
    | some limit => validateAdminLimit limit
    | none => .ok ()

def Selector.reasonMatches (s : Selector) (r : OutboxRow) : Bool :=
  match s.reason with
  | none => true
  | some reason => r.lastError == some reason

def deadLetterById (s : Selector) (outboxId : String) (db : Db) : Option String :=
  (db.outbox.find? (fun r => r.status == .deadLetter && r.outboxId == outboxId)).bind (fun r =>
    if s.reasonMatches r then some r.outboxId else none)

/-- `ORDER BY updated_at ASC, created_at ASC, outbox_id ASC`. -/
def OutboxRow.adminLe (r r' : OutboxRow) : Bool :=
  r.updatedAt < r'.updatedAt || r.updatedAt == r'.updatedAt &&
    (r.createdAt < r'.createdAt || r.createdAt == r'.createdAt && r.outboxId ≤ r'.outboxId)

def oldestDeadLetters (s : Selector) (limit : Int) (db : Db) : List String :=
  (((db.outbox.filter (fun r => r.status == .deadLetter && s.reasonMatches r)).mergeSort OutboxRow.adminLe).take
    limit.toNat).map (·.outboxId)

def OutboxRow.replayable (clock : Int) (outboxId : String) (r : OutboxRow) : Bool :=
  r.outboxId == outboxId && r.status == .deadLetter && r.beforeDeadline clock

def replayAll (clock now : Int) : List String → Db → Except String Db
  | [], db => .ok db
  | id :: ids, db =>
    if db.outbox.any (·.replayable clock id) then
      replayAll clock now ids { db with outbox := Table.update (·.replayable clock id) (·.replayed now) db.outbox }
    else .error "dead-letter row is past its delivery resolution deadline and cannot be replayed"

def deleteAll (ids : List String) (db : Db) : Db :=
  { db with outbox := db.outbox.filter (fun r => !(ids.contains r.outboxId && r.status == .deadLetter)) }

/-! ## Retention -/

def purgeRetainedSensitiveData (cutoff idempotencyCutoff : Int) (db : Db) : Db :=
  let outbox := db.outbox.filter (fun r => !(r.status.terminal && decide (r.updatedAt < cutoff)))
  { db with
    outbox
    registrations := db.registrations.filter (fun r => !r.disabledAt.any (· < cutoff))
    events := db.events.filter (fun e => !(decide (e.createdAt < cutoff) && !outbox.any (·.eventId == e.eventId)))
    tombstones := db.tombstones.filter (fun t => !decide (t.retainUntil < idempotencyCutoff)) }

end Manifold.Push
