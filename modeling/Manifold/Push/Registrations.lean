import Manifold.Push.Outbox

/-!
# Push registrations

`crates/push-gateway-storage/src/push_registration_repository.rs`. Transactions are serial here, so the row that
serves as the admission lock is left out.
-/

namespace Manifold.Push

open Lib

structure RegisterRequest where
  recipientId : String
  installationId : String
  fcmToken : String
  platform : Option String

structure AdmissionLimits where
  maxActivePerRecipient : Nat
  maxActiveGlobal : Nat
  maxTotalRows : Nat
  reclamationBatchSize : Nat

inductive AdmissionOutcome where
  | registered
  | recipientCapacityExceeded
  | globalCapacityExceeded
  | globalRowCapacityExceeded
  | tokenBoundToDifferentInstallation
deriving DecidableEq

/-! ## Purges -/

def Db.orphaned (db : Db) (o : TokenOwner) : Bool := !db.registrations.any (·.fcmToken == o.fcmToken)

/-- `ORDER BY owner.updated_at, owner.fcm_token`. -/
def TokenOwner.le (o o' : TokenOwner) : Bool :=
  o.updatedAt < o'.updatedAt || o.updatedAt == o'.updatedAt && o.fcmToken ≤ o'.fcmToken

def purgeOrphanedTokenOwners (cutoff : Int) (batchSize : Nat) (db : Db) : Db :=
  if batchSize = 0 then db
  else
    let victims := ((db.owners.filter (fun o => decide (o.updatedAt < cutoff) && db.orphaned o)).mergeSort
      TokenOwner.le).take (toLimit batchSize)
    { db with owners := db.owners.filter (fun o => !victims.any (·.fcmToken == o.fcmToken)) }

def purgeStaleInTransaction (cutoff : Int) (batchSize : Nat) (tie : Registration → Nat) (db : Db) : Db :=
  if batchSize = 0 then db
  else
    let victims := firstBy (·.lastSeenAt) tie (toLimit batchSize) (db.registrations.filter (·.lastSeenAt < cutoff))
    purgeOrphanedTokenOwners cutoff batchSize
      { db with
        registrations := db.registrations.filter (fun r =>
          !victims.any (fun v => v.recipientId == r.recipientId && v.installationId == r.installationId)) }

def unboundedBatch : Nat := 2 ^ 64 - 1

def purgeStale (cutoff : Int) (db : Db) : Db :=
  purgeOrphanedTokenOwners cutoff unboundedBatch
    { db with registrations := db.registrations.filter (fun r => !decide (r.lastSeenAt < cutoff)) }

/-! ## Admission -/

def Registration.active (cutoff : Int) (r : Registration) : Bool := r.disabledAt.isNone && decide (cutoff ≤ r.lastSeenAt)

def Registration.route (r : Registration) : String × String := (r.recipientId, r.installationId)

def Registration.at (recipientId installationId : String) (r : Registration) : Bool :=
  decide (r.route = (recipientId, installationId))

def TokenOwner.names (recipientId installationId : String) (o : TokenOwner) : Bool :=
  o.recipientId == recipientId && o.installationId == installationId

def activeCount (cutoff : Int) (recipientId : Option String) (db : Db) : Nat :=
  db.registrations.countP (fun r => recipientId.all (· == r.recipientId) && r.active cutoff)

def physicalCount (db : Db) : Nat := db.registrations.length + db.owners.length

section admission

variable (req : RegisterRequest) (cutoff : Int) (db : Db)

def tokenOwner : Option TokenOwner := Table.lookup (·.fcmToken) req.fcmToken db.owners

def tokenRegistration : Option Registration := Table.lookup (·.fcmToken) req.fcmToken db.registrations

def target : Option Registration :=
  Table.lookup (·.route) (req.recipientId, req.installationId) db.registrations

def tokenConflicts : Bool :=
  (tokenOwner req db).any (fun o => o.recipientId != req.recipientId && o.installationId != req.installationId) ||
  (tokenRegistration req db).any (fun r => r.recipientId != req.recipientId && r.installationId != req.installationId)

def targetIsActive : Bool := (target req db).any (·.active cutoff)

def tokenRegistrationIsOtherRoute : Bool :=
  (tokenRegistration req db).any (fun r => r.recipientId != req.recipientId || r.installationId != req.installationId)

def tokenRegistrationIsActive : Bool := (tokenRegistration req db).any (·.active cutoff)

def tokenRegistrationBelongsToRecipient : Bool := (tokenRegistration req db).any (·.recipientId == req.recipientId)

def removedRecipientActive : Nat :=
  (targetIsActive req cutoff db).toNat +
    (tokenRegistrationIsOtherRoute req db && tokenRegistrationBelongsToRecipient req db &&
      tokenRegistrationIsActive req cutoff db).toNat

def removedGlobalActive : Nat :=
  (targetIsActive req cutoff db).toNat +
    (tokenRegistrationIsOtherRoute req db && tokenRegistrationIsActive req cutoff db).toNat

def targetOldToken : Option String := ((target req db).map (·.fcmToken)).filter (· != req.fcmToken)

/-- `token_owner_matches_installation` for the token that the target gives up. -/
def releasesTargetOldOwner : Bool :=
  (targetOldToken req db).any (fun old =>
    db.owners.countP (fun o => o.fcmToken == old && o.names req.recipientId req.installationId) == 1)

def projectedRecipient : Nat :=
  activeCount cutoff (some req.recipientId) db - removedRecipientActive req cutoff db + 1

def projectedGlobal : Nat := activeCount cutoff none db - removedGlobalActive req cutoff db + 1

def projectedRows : Nat :=
  physicalCount db - ((tokenRegistrationIsOtherRoute req db).toNat + (releasesTargetOldOwner req db).toNat) +
    ((target req db).isNone.toNat + (tokenOwner req db).isNone.toNat)

def admissionRefusal (limits : AdmissionLimits) : Option AdmissionOutcome :=
  if tokenConflicts req db then some .tokenBoundToDifferentInstallation
  else if 0 < limits.maxActivePerRecipient ∧ limits.maxActivePerRecipient < projectedRecipient req cutoff db then
    some .recipientCapacityExceeded
  else if 0 < limits.maxActiveGlobal ∧ limits.maxActiveGlobal < projectedGlobal req cutoff db then
    some .globalCapacityExceeded
  else if 0 < limits.maxTotalRows ∧ limits.maxTotalRows < projectedRows req db then some .globalRowCapacityExceeded
  else none

def newRegistration (now : Int) : Registration :=
  { recipientId := req.recipientId, installationId := req.installationId, fcmToken := req.fcmToken,
    platform := req.platform, createdAt := now, updatedAt := now, lastSeenAt := now }

/-- What the `ON CONFLICT(recipient_id, installation_id) DO UPDATE` writes. -/
def refreshed (now : Int) (r : Registration) : Registration :=
  { r with fcmToken := req.fcmToken, platform := req.platform, updatedAt := now, lastSeenAt := now,
           disabledAt := none, disabledReason := none }

def upsertRegistration (now : Int) (rows : List Registration) : List Registration :=
  if rows.any (·.at req.recipientId req.installationId) then
    Table.update (·.at req.recipientId req.installationId) (refreshed req now) rows
  else rows ++ [newRegistration req now]

def detachedRows : List Registration :=
  if tokenRegistrationIsOtherRoute req db then db.registrations.filter (·.fcmToken != req.fcmToken)
  else db.registrations

def registeredRows (now : Int) : List Registration := upsertRegistration req now (detachedRows req db)

def releasedOwners : List TokenOwner :=
  if releasesTargetOldOwner req db then
    db.owners.filter (fun o =>
      !((targetOldToken req db).any (· == o.fcmToken) && o.names req.recipientId req.installationId))
  else db.owners

def registeredOwners (now : Int) : List TokenOwner :=
  if (tokenOwner req db).isSome then
    Table.update (·.fcmToken == req.fcmToken)
      (fun o => { o with installationId := req.installationId, updatedAt := now, recipientId := req.recipientId })
      (releasedOwners req db)
  else
    releasedOwners req db ++
      [{ fcmToken := req.fcmToken, recipientId := req.recipientId, installationId := req.installationId, updatedAt := now }]

def register (now : Int) : Db :=
  { db with registrations := registeredRows req db now, owners := registeredOwners req db now }

def admitInstallation (now : Int) (limits : AdmissionLimits) (tie : Registration → Nat) : AdmissionOutcome × Db :=
  let purged := purgeStaleInTransaction cutoff limits.reclamationBatchSize tie db
  match admissionRefusal req cutoff purged limits with
  | some refusal => (refusal, db)
  | none => (.registered, register req purged now)

end admission

/-! ## The other transactions -/

def deleteInstallation (recipientId installationId : String) (db : Db) : Db :=
  { db with
    registrations := db.registrations.filter (fun r => !r.at recipientId installationId)
    owners := db.owners.filter (fun o => !o.names recipientId installationId) }

def disableInstallation (now : Int) (recipientId installationId : String) (reason : Option String) (db : Db) : Db :=
  { db with registrations := Table.update (·.at recipientId installationId) (·.disabled now reason) db.registrations }

def eligibleInstallation (recipientId installationId : String) (cutoff : Int) (db : Db) : Option Registration :=
  db.registrations.find? (fun r => r.at recipientId installationId && r.active cutoff)

end Manifold.Push
