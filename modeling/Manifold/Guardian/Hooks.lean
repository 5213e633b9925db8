import Manifold.Lib.Machine
import Manifold.Lib.Task
import Manifold.Lib.Table
import Manifold.Guardian.Transfers

/-!
# Completion hooks

`completion_callbacks` (`crates/mg/core/src/db/seats.rs`, `db/transfers.rs`) and `crates/mg/core/src/push_callback.rs`.
-/

namespace Manifold.Guardian.Hooks

open Lib (Routine Task bigEndian)

/-! ## Callbacks -/

def callbackUrlMaxBytes : Nat := 2048
def idempotencyKeyMaxBytes : Nat := 128

structure DkgCompletionCallback where
  callbackUrl : String
  idempotencyKey : String
  url_bounded : bounded callbackUrlMaxBytes callbackUrl = true
  key_bounded : bounded idempotencyKeyMaxBytes idempotencyKey = true
deriving DecidableEq

def DkgCompletionCallback.new (callbackUrl idempotencyKey : String) : Except String DkgCompletionCallback :=
  if hu : bounded callbackUrlMaxBytes callbackUrl = true then
    if hk : bounded idempotencyKeyMaxBytes idempotencyKey = true then
      .ok ⟨callbackUrl, idempotencyKey, hu, hk⟩
    else .error "idempotency key must be 1..=128 bytes with no control characters"
  else .error "callback URL must be 1..=2048 bytes with no control characters"

structure CallbackJson where
  print : String → String → String
  parse : String → Option (String × String)
  parse_print : ∀ url key, parse (print url key) = some (url, key)

namespace CallbackJson

variable (json : CallbackJson)

def encode (callback : DkgCompletionCallback) : String :=
  json.print callback.callbackUrl callback.idempotencyKey

def decode (text : String) : Except String DkgCompletionCallback :=
  match json.parse text with
  | none => .error "not a callback"
  | some (url, key) => DkgCompletionCallback.new url key

end CallbackJson

inductive CompletionCallbackReason where
  | gatewayOriginMissing
  | gatewayOriginMismatch
  | httpClientUnavailable
  | network
  | gatewayUnavailable
  | rateLimited
  | hookNotFound
  | hookExpiredOrRevoked
  | maxUsesExceeded
  | policyRejected
  | decommissioned
  | superseded
deriving DecidableEq

namespace CompletionCallbackReason

def asStr : CompletionCallbackReason → String
  | .gatewayOriginMissing => "gateway_origin_missing"
  | .gatewayOriginMismatch => "gateway_origin_mismatch"
  | .httpClientUnavailable => "http_client_unavailable"
  | .network => "network"
  | .gatewayUnavailable => "gateway_unavailable"
  | .rateLimited => "rate_limited"
  | .hookNotFound => "hook_not_found"
  | .hookExpiredOrRevoked => "hook_expired_or_revoked"
  | .maxUsesExceeded => "max_uses_exceeded"
  | .policyRejected => "policy_rejected"
  | .decommissioned => "decommissioned"
  | .superseded => "superseded"

def fromStr : String → Option CompletionCallbackReason
  | "gateway_origin_missing" => some .gatewayOriginMissing
  | "gateway_origin_mismatch" => some .gatewayOriginMismatch
  | "http_client_unavailable" => some .httpClientUnavailable
  | "network" => some .network
  | "gateway_unavailable" => some .gatewayUnavailable
  | "rate_limited" => some .rateLimited
  | "hook_not_found" => some .hookNotFound
  | "hook_expired_or_revoked" => some .hookExpiredOrRevoked
  | "max_uses_exceeded" => some .maxUsesExceeded
  | "policy_rejected" => some .policyRejected
  | "decommissioned" => some .decommissioned
  | "superseded" => some .superseded
  | _ => none

@[simp] theorem fromStr_asStr (r : CompletionCallbackReason) : fromStr r.asStr = some r := by
  cases r <;> rfl

end CompletionCallbackReason

inductive CompletionCallbackStatus where
  | notConfigured
  | pending (attempts : UInt32) (nextAttemptAtMs : Int) (lastReason : Option CompletionCallbackReason)
  | operatorBlocked (attempts : UInt32) (reason : CompletionCallbackReason)
  | delivered (attempts : UInt32) (atMs : Int)
  | terminal (attempts : UInt32) (atMs : Int) (reason : CompletionCallbackReason)
deriving DecidableEq

namespace CompletionCallbackStatus

def attempts : CompletionCallbackStatus → UInt32
  | .notConfigured => 0
  | .pending attempts _ _ | .operatorBlocked attempts _ | .delivered attempts _ | .terminal attempts _ _ =>
    attempts

def isResumable : CompletionCallbackStatus → Bool
  | .pending _ _ _ | .operatorBlocked _ _ => true
  | _ => false

def isCompleted : CompletionCallbackStatus → Bool
  | .delivered _ _ | .terminal _ _ _ => true
  | _ => false

end CompletionCallbackStatus

/-! ## Rows -/

structure CompletionCallbackRow where
  quoteId : List UInt8
  callback : Option String
  status : String
  attempts : Int := 0
  nextAttemptAtMs : Option Int
  reason : Option String := none
  completedAtMs : Option Int := none

structure CorruptRow where
  key : String
  detail : String

def CorruptRow.error (_ : CorruptRow) : DbError := .corruptRow "completion_callbacks"

structure CompletionCallbackRecord where
  seatId : QuoteId
  callback : Option DkgCompletionCallback
  status : CompletionCallbackStatus

namespace CompletionCallbackRow

def check (r : CompletionCallbackRow) : Bool :=
  ["not_configured", "pending", "operator_blocked", "delivered", "terminal"].contains r.status &&
    decide (0 ≤ r.attempts)

variable (row : CompletionCallbackRow) (key : String)

def parseAttempts : Except CorruptRow UInt32 :=
  if 0 ≤ row.attempts ∧ row.attempts < 4294967296 then .ok (UInt32.ofNat row.attempts.toNat)
  else .error ⟨key, "completion_callback_attempts " ++ toString row.attempts⟩

def parseReason : Except CorruptRow (Option CompletionCallbackReason) :=
  match row.reason with
  | none => .ok none
  | some text =>
    match CompletionCallbackReason.fromStr text with
    | some reason => .ok (some reason)
    | none => .error ⟨key, "unknown completion callback reason " ++ text⟩

def require {α : Type} (detail : String) : Option α → Except CorruptRow α
  | some a => .ok a
  | none => .error ⟨key, detail⟩

def parseState (attempts : UInt32) (reason : Option CompletionCallbackReason) :
    Except CorruptRow CompletionCallbackStatus :=
  match row.status with
  | "not_configured" =>
    if attempts = 0 then .ok .notConfigured
    else .error ⟨key, "invalid completion callback state not_configured"⟩
  | "pending" => do
      let next ← require key "pending callback has no next-attempt timestamp" row.nextAttemptAtMs
      return .pending attempts next reason
  | "operator_blocked" => do
      let reason ← require key "operator-blocked callback has no reason" reason
      return .operatorBlocked attempts reason
  | "delivered" => do
      let at_ms ← require key "delivered callback has no completion timestamp" row.completedAtMs
      return .delivered attempts at_ms
  | "terminal" => do
      let at_ms ← require key "terminal callback has no completion timestamp" row.completedAtMs
      let reason ← require key "terminal callback has no reason" reason
      return .terminal attempts at_ms reason
  | value => .error ⟨key, "invalid completion callback state " ++ value⟩

def stale (reason : Option CompletionCallbackReason) : CompletionCallbackStatus → Option String
  | .notConfigured =>
    if row.nextAttemptAtMs.isSome || reason.isSome || row.completedAtMs.isSome then
      some "not-configured callback retained lifecycle fields"
    else none
  | .pending _ _ _ =>
    if row.completedAtMs.isSome then some "pending callback retained completion fields" else none
  | .operatorBlocked _ _ =>
    if row.nextAttemptAtMs.isSome || row.completedAtMs.isSome then
      some "operator-blocked callback retained retry or completion fields"
    else none
  | .delivered _ _ =>
    if reason.isSome || row.nextAttemptAtMs.isSome then
      some "delivered callback has contradictory reason or retry timestamp"
    else none
  | .terminal _ _ _ =>
    if row.nextAttemptAtMs.isSome then some "terminal callback retained retry timestamp" else none

def parseCompletionCallbackStatus : Except CorruptRow CompletionCallbackStatus := do
  let attempts ← row.parseAttempts key
  let reason ← row.parseReason key
  let status ← row.parseState key attempts reason
  match row.stale reason status with
  | some detail => .error ⟨key, detail⟩
  | none => .ok status

def misplacedBearer (status : CompletionCallbackStatus) (callback : Option DkgCompletionCallback) : Option String :=
  if status = .notConfigured ∧ callback.isSome then some "not-configured callback retained bearer"
  else if status.isResumable ∧ callback.isNone then some "resumable callback state is missing bearer"
  else if status.isCompleted ∧ callback.isSome then some "completed callback state retained bearer"
  else none

def decodeCallback (json : CallbackJson) : Except CorruptRow (Option DkgCompletionCallback) :=
  match row.callback with
  | none => .ok none
  | some text =>
    match json.decode text with
    | .ok callback => .ok (some callback)
    | .error e => .error ⟨key, "completion_callback: " ++ e⟩

def decode (json : CallbackJson) : Except CorruptRow CompletionCallbackRecord := do
  let key := hexEncode row.quoteId
  let seatId ← require key "quote_id is not 32 bytes" (seatIdOfBytes row.quoteId)
  let callback ← row.decodeCallback key json
  let status ← row.parseCompletionCallbackStatus key
  match misplacedBearer status callback with
  | some detail => .error ⟨key, detail⟩
  | none => .ok ⟨seatId, callback, status⟩

end CompletionCallbackRow

/-! ## The table -/

/-- The primary key and the CHECKs hold of every stored row. -/
structure CallbackTable where
  rows : List CompletionCallbackRow
  keyed : Lib.Table.Keyed (·.quoteId) rows
  checked : ∀ r ∈ rows, r.check = true

namespace CallbackTable

def empty : CallbackTable := ⟨[], by simp [Lib.Table.Keyed], by simp⟩

def insertOrIgnore (t : CallbackTable) (r : CompletionCallbackRow) : Except DbError CallbackTable :=
  if hk : ∃ r₀ ∈ t.rows, r₀.quoteId = r.quoteId then .ok t
  else if hc : r.check = true then
    .ok ⟨t.rows ++ [r], t.keyed.append fun r₀ hr₀ he => hk ⟨r₀, hr₀, he⟩, fun r₀ hr₀ => by
      rcases Lib.mem_snoc.mp hr₀ with hr₀ | rfl
      · exact t.checked r₀ hr₀
      · exact hc⟩
  else .error (.constraint "completion_callbacks")

def update (t : CallbackTable) (p : CompletionCallbackRow → Bool)
    (f : CompletionCallbackRow → CompletionCallbackRow) (hf : ∀ r, (f r).quoteId = r.quoteId) :
    Except DbError (CallbackTable × Nat) :=
  if hc : ∀ r ∈ Lib.Table.update p f t.rows, r.check = true then
    .ok (⟨Lib.Table.update p f t.rows, t.keyed.update fun r _ => hf r, hc⟩, t.rows.countP p)
  else .error (.constraint "completion_callbacks")

end CallbackTable

/-! ## Transactions -/

structure Db where
  store : Store
  callbacks : CallbackTable

structure Env where
  json : CallbackJson
  codec : Codec
  callbackCommitment : DkgCompletionCallback → BitVec 256

def firstRow (json : CallbackJson) (seatId : QuoteId) (callback : Option DkgCompletionCallback) (now : Int) :
    CompletionCallbackRow where
  quoteId := seatIdBytes seatId
  callback := callback.map json.encode
  status := if callback.isSome then "pending" else "not_configured"
  nextAttemptAtMs := callback.map (fun _ => now)

def installIn (json : CallbackJson) (store : Store) (t : CallbackTable) (seatId : QuoteId)
    (callback : Option DkgCompletionCallback) (now : Int) : Except DbError CallbackTable :=
  if (store.seats.find? seatId).isSome then t.insertOrIgnore (firstRow json seatId callback now)
  else .error (.constraint "completion_callbacks")

def waits (store : Store) (seatId : QuoteId) : Bool :=
  ((store.seats.find? seatId).bind (·.transferIn)).any (fun t => t.accepted.isNone)

inductive Event where
  | chosen (seatId : QuoteId) (callback : Option DkgCompletionCallback)
  /-- The daemon refused to start: a stored row does not decode. -/
  | refused (error : DbError)

namespace Db

variable (env : Env) (db : Db)

def commitWithCallback {α : Type} (store : Store) (seatId : QuoteId) (callback : Option DkgCompletionCallback)
    (now : Int) (answer : α) : Db × Except DbError α × List Event :=
  match installIn env.json store db.callbacks seatId callback now with
  | .error e => (db, .error e, [])
  | .ok callbacks => (⟨store, callbacks⟩, .ok answer, [.chosen seatId callback])

def installCompletionCallback (seatId : QuoteId) (callback : Option DkgCompletionCallback) (now : Int) :
    Db × Except DbError Unit × List Event :=
  db.commitWithCallback env db.store seatId callback now ()

def recordDkgInputs (seatId : QuoteId) (codes : List GuardianCode) (callback : Option DkgCompletionCallback)
    (now : Int) : Db × Except DbError Unit × List Event :=
  let tx := db.store.recordDkgInputs seatId codes
  match tx.answer with
  | .error e => (db, .error e, [])
  | .ok () => db.commitWithCallback env tx.store seatId callback now ()

def admitTransfer (signed : SignedGrant) (verified : Option SeatTransferGrant)
    (callback : Option DkgCompletionCallback) (now : Int) :
    Db × Except DbError (Option IncomingTransfer) × List Event :=
  match verified with
  | none => (db, .ok none, [])
  | some grant =>
    let seatId := grant.destinationSeatId
    let tx := db.store.admitTransfer env.codec signed verified (callback.map env.callbackCommitment)
    match tx.answer with
    | .error e => (db, .error e, [])
    | .ok none => (db, .ok none, [])
    | .ok (some record) =>
      if waits db.store seatId then (db, .ok (some record), [])
      else db.commitWithCallback env tx.store seatId callback now (some record)

def endWithSeat (now : Int) (r : CompletionCallbackRow) : CompletionCallbackRow :=
  { r with
    callback := none
    status := "terminal"
    nextAttemptAtMs := none
    reason := some "decommissioned"
    completedAtMs := some now }

def isResumable (r : CompletionCallbackRow) : Bool := r.status == "pending" || r.status == "operator_blocked"

def decommissionSeat (seatId : QuoteId) (now : Int) : Db × Except DbError Int :=
  let tx := db.store.decommissionSeat seatId now
  match tx.answer with
  | .error e => (db, .error e)
  | .ok at_ms =>
    match db.callbacks.update (fun r => r.quoteId == seatIdBytes seatId && isResumable r) (endWithSeat now)
        (fun _ => rfl) with
    | .error e => (db, .error e)
    | .ok (callbacks, _) => (⟨tx.store, callbacks⟩, .ok at_ms)

def updateCallbacks (p : CompletionCallbackRow → Bool) (f : CompletionCallbackRow → CompletionCallbackRow)
    (hf : ∀ r, (f r).quoteId = r.quoteId) : Db × Except DbError Bool :=
  match db.callbacks.update p f hf with
  | .error e => (db, .error e)
  | .ok (callbacks, affected) => (⟨db.store, callbacks⟩, .ok (affected == 1))

def formedAndLive (seatId : QuoteId) : Bool :=
  (db.store.seats.find? seatId).any (fun r => r.formed.isSome && r.decommissionedAtMs.isNone)

def startAttempt (nextAttemptAtMs : Int) (r : CompletionCallbackRow) : CompletionCallbackRow :=
  { r with
    status := "pending"
    attempts := min (r.attempts + 1) 4294967295
    nextAttemptAtMs := some nextAttemptAtMs
    reason := none }

def recordCompletionCallbackAttemptStarted (seatId : QuoteId) (nextAttemptAtMs : Int) : Db × Except DbError Bool :=
  db.updateCallbacks
    (fun r => r.quoteId == seatIdBytes seatId && r.callback.isSome && isResumable r && db.formedAndLive seatId)
    (startAttempt nextAttemptAtMs) (fun _ => rfl)

def recordCompletionCallbackRetryReason (seatId : QuoteId) (reason : CompletionCallbackReason) :
    Db × Except DbError Bool :=
  db.updateCallbacks (fun r => r.quoteId == seatIdBytes seatId && r.status == "pending")
    (fun r => { r with reason := some reason.asStr }) (fun _ => rfl)

def recordCompletionCallbackOperatorBlocked (seatId : QuoteId) (reason : CompletionCallbackReason) :
    Db × Except DbError Bool :=
  db.updateCallbacks (fun r => r.quoteId == seatIdBytes seatId && r.callback.isSome && isResumable r)
    (fun r => { r with
      status := "operator_blocked"
      nextAttemptAtMs := none
      reason := some reason.asStr }) (fun _ => rfl)

end Db

inductive CompletionCallbackOutcome where
  | delivered
  | terminal (reason : CompletionCallbackReason)

namespace CompletionCallbackOutcome

def status : CompletionCallbackOutcome → String
  | .delivered => "delivered"
  | .terminal _ => "terminal"

def reason : CompletionCallbackOutcome → Option String
  | .delivered => none
  | .terminal reason => some reason.asStr

end CompletionCallbackOutcome

namespace Db

variable (db : Db)

def recordCompletionCallbackCompleted (seatId : QuoteId) (outcome : CompletionCallbackOutcome) (now : Int) :
    Db × Except DbError (Option Int) :=
  let tx := db.updateCallbacks
    (fun r => r.quoteId == seatIdBytes seatId && r.callback.isSome && r.status == "pending")
    (fun r => { r with
      callback := none
      status := outcome.status
      nextAttemptAtMs := none
      reason := outcome.reason
      completedAtMs := some now }) (fun _ => rfl)
  (tx.1, tx.2.map (fun one => if one then some now else none))

def decodeAll (json : CallbackJson) (rows : List CompletionCallbackRow) :
    Except DbError (List CompletionCallbackRecord) :=
  rows.mapM (fun r => (r.decode json).mapError CorruptRow.error)

def validateCompletionCallbacks (json : CallbackJson) : Except DbError Unit :=
  (decodeAll json db.callbacks.rows).map (fun _ => ())

def isDeliverable (r : CompletionCallbackRow) : Bool :=
  r.callback.isSome && isResumable r &&
    db.store.seats.rows.any (fun seat => seatIdBytes seat.facts.seatId == r.quoteId && seat.formed.isSome &&
      seat.decommissionedAtMs.isNone && seat.transferIn.all (·.accepted.isSome) && seat.transferOut.isNone)

def deliverableCompletionCallbacks (json : CallbackJson) : Except DbError (List CompletionCallbackRecord) :=
  decodeAll json (db.callbacks.rows.filter db.isDeliverable)

end Db

/-! ## Destinations -/

structure Url where
  origin : String
  username : String := ""
  password : Option String := none
  query : Option String := none
  fragment : Option String := none
  pathSegments : Option (List String)

def hookPathComponentMaxBytes : Nat := 512

inductive PushCallbackValidationError where
  | invalidUrl
  | originOrShapeMismatch

def hookComponent (component : String) : Bool :=
  !component.isEmpty && decide (component.utf8ByteSize ≤ hookPathComponentMaxBytes)

def validate (parse : String → Option Url) (gateway : Url) (callback : DkgCompletionCallback) :
    Except PushCallbackValidationError DkgCompletionCallback :=
  match parse callback.callbackUrl with
  | none => .error .invalidUrl
  | some url =>
    if url.origin ≠ gateway.origin ∨ url.username ≠ "" ∨ url.password.isSome ∨ url.query.isSome ∨
        url.fragment.isSome then .error .originOrShapeMismatch
    else
      match url.pathSegments with
      | some ["hooks", first, second] =>
        if hookComponent first && hookComponent second then .ok callback
        else .error .originOrShapeMismatch
      | _ => .error .originOrShapeMismatch

/-! ## The worker -/

inductive CallbackAttemptOutcome where
  | delivered
  | retryable (reason : CompletionCallbackReason)
  | terminal (reason : CompletionCallbackReason)

structure Config where
  gatewayOrigin : Option Url
  retryBaseMs : Nat
  parseUrl : String → Option Url
  sha256Head : List UInt8 → UInt8

def maxRetryIntervalMs : Nat := 15 * 60 * 1000

def retryDelay (c : Config) (attempt : UInt32) (entropy : List UInt8) : Nat :=
  let exponent := min (attempt.toNat - 1) 16
  let exponentialMs := min (c.retryBaseMs * 2 ^ exponent) maxRetryIntervalMs
  let jitterPercent := 80 + (c.sha256Head (entropy ++ bigEndian 4 attempt.toNat)).toNat % 41
  min (max (exponentialMs * jitterPercent / 100) 1) maxRetryIntervalMs

def i64Max : Int := 9223372036854775807

def dueAt (now : Int) (delayMs : Nat) : Int := min (now + delayMs) i64Max

def nextAttempt (attempts : UInt32) : UInt32 := UInt32.ofNat (u32SaturatingAdd attempts.toNat 1)

inductive Ask where
  | nowMs
  | isAvailable
  | deliverableCompletionCallbacks
  | attemptStarted (seatId : QuoteId) (nextAttemptAtMs : Int)
  | retryReason (seatId : QuoteId) (reason : CompletionCallbackReason)
  | operatorBlocked (seatId : QuoteId) (reason : CompletionCallbackReason)
  | completed (seatId : QuoteId) (outcome : CompletionCallbackOutcome)
  | spawn (callback : DkgCompletionCallback)

abbrev Ans : Ask → Type
  | .nowMs => Int
  | .isAvailable => Bool
  | .deliverableCompletionCallbacks => Except DbError (List CompletionCallbackRecord)
  | .attemptStarted _ _ | .retryReason _ _ | .operatorBlocked _ _ => Except DbError Bool
  | .completed _ _ => Except DbError (Option Int)
  | .spawn _ => Nat

structure Outside where
  now : Int := 0
  available : Bool := true
  dbFails : Bool := false
  taskId : Nat := 0

def onDb {α : Type} (db : Db) (x : Outside) (tx : Db × Except DbError α) : Except DbError α × Db × List Event :=
  if x.dbFails then (.error .sqlite, db, []) else (tx.2, tx.1, [])

def handler (env : Env) : Lib.Handler Ans Db Outside Event
  | .nowMs, db, x => some (x.now, db, [])
  | .isAvailable, db, x => some (x.available, db, [])
  | .deliverableCompletionCallbacks, db, x =>
    some (onDb db x (db, db.deliverableCompletionCallbacks env.json))
  | .attemptStarted seatId next, db, x =>
    some (onDb db x (db.recordCompletionCallbackAttemptStarted seatId next))
  | .retryReason seatId reason, db, x =>
    some (onDb db x (db.recordCompletionCallbackRetryReason seatId reason))
  | .operatorBlocked seatId reason, db, x =>
    some (onDb db x (db.recordCompletionCallbackOperatorBlocked seatId reason))
  | .completed seatId outcome, db, x =>
    some (onDb db x (db.recordCompletionCallbackCompleted seatId outcome x.now))
  | .spawn _, db, x => some (x.taskId, db, [])

abbrev Active := List (Nat × QuoteId)

abbrev Work := Routine Ans Active Empty

namespace Work

def ask (e : Ask) : Work (Ans e) := Routine.ask e

def markOperatorBlocked (record : CompletionCallbackRecord) (reason : CompletionCallbackReason) : Work Unit :=
  match record.status with
  | .operatorBlocked _ current =>
    if current = reason then pure ()
    else do
      let _ ← ask (.operatorBlocked record.seatId reason)
      pure ()
  | _ => do
      let _ ← ask (.operatorBlocked record.seatId reason)
      pure ()

def invoke (c : Config) (record : CompletionCallbackRecord) (callback : DkgCompletionCallback) : Work Unit := do
  let attempts := nextAttempt record.status.attempts
  let delay := retryDelay c attempts (seatIdBytes record.seatId)
  let now ← ask .nowMs
  match ← ask (.attemptStarted record.seatId (dueAt now delay)) with
  | .ok true => do
      let id ← ask (.spawn callback)
      modify (fun active => (id, record.seatId) :: active)
  | .ok false => pure ()
  | .error _ => pure ()

def deliver (c : Config) (record : CompletionCallbackRecord) (callback : DkgCompletionCallback) : Work Unit :=
  match c.gatewayOrigin with
  | none => markOperatorBlocked record .gatewayOriginMissing
  | some gateway =>
    match validate c.parseUrl gateway callback with
    | .error _ => markOperatorBlocked record .gatewayOriginMismatch
    | .ok callback => do
        if ← ask .isAvailable then invoke c record callback
        else markOperatorBlocked record .httpClientUnavailable

def isDue (record : CompletionCallbackRecord) : Work Bool :=
  match record.status with
  | .pending _ next _ => do
      let now ← ask .nowMs
      return decide (next ≤ now)
  | _ => pure true

def scheduleOne (c : Config) (record : CompletionCallbackRecord) : Work Unit := do
  let active ← get
  match record.callback with
  | none => pure ()
  | some callback =>
    if active.any (fun a => a.2 == record.seatId) then pure ()
    else do
      if ← isDue record then deliver c record callback else pure ()

def scheduleEach (c : Config) : List CompletionCallbackRecord → Work Unit
  | [] => pure ()
  | record :: rest => do
      scheduleOne c record
      scheduleEach c rest

def scheduleCallbacks (c : Config) : Work Unit := do
  match ← ask .deliverableCompletionCallbacks with
  | .error _ => pure ()
  | .ok callbacks => scheduleEach c callbacks

def finishCallback (seatId : QuoteId) : CallbackAttemptOutcome → Work Unit
  | .delivered => do
      let _ ← ask (.completed seatId .delivered)
      pure ()
  | .terminal reason => do
      let _ ← ask (.completed seatId (.terminal reason))
      pure ()
  | .retryable reason => do
      let _ ← ask (.retryReason seatId reason)
      pure ()

end Work

/-! ## The daemon -/

structure Worker where
  config : Config
  active : Active := []
  turn : Option (Task Ans Active (Except Empty Unit)) := none

structure State where
  db : Db
  worker : Option Worker

inductive Write where
  | installCompletionCallback (seatId : QuoteId) (callback : Option DkgCompletionCallback) (now : Int)
  | recordDkgInputs (seatId : QuoteId) (codes : List GuardianCode) (callback : Option DkgCompletionCallback)
      (now : Int)
  | admitTransfer (signed : SignedGrant) (verified : Option SeatTransferGrant)
      (callback : Option DkgCompletionCallback) (now : Int)
  | decommissionSeat (seatId : QuoteId) (now : Int)
  /-- Whatever happens to the other tables: no other statement names the callbacks. -/
  | elsewhere (store : Store)

def Write.run (env : Env) (db : Db) : Write → Db × List Event
  | .installCompletionCallback seatId callback now =>
    let tx := db.installCompletionCallback env seatId callback now
    (tx.1, tx.2.2)
  | .recordDkgInputs seatId codes callback now =>
    let tx := db.recordDkgInputs env seatId codes callback now
    (tx.1, tx.2.2)
  | .admitTransfer signed verified callback now =>
    let tx := db.admitTransfer env signed verified callback now
    (tx.1, tx.2.2)
  | .decommissionSeat seatId now => ((db.decommissionSeat seatId now).1, [])
  | .elsewhere store => ({ db with store := store }, [])

inductive Act where
  | write (w : Write)
  | boot (config : Config)
  | wake
  | join (taskId : Nat) (outcome : Option CallbackAttemptOutcome)
  | answer (x : Outside)
  | rest
  | crash

def Worker.join (w : Worker) (taskId : Nat) (outcome : Option CallbackAttemptOutcome) : Option Worker :=
  match w.turn, w.active.lookup taskId with
  | none, some seatId =>
    let active := w.active.filter (fun a => a.1 != taskId)
    match outcome with
    | some o => some { w with active := active, turn := some (Work.finishCallback seatId o active) }
    | none => some { w with active := active }
  | _, _ => none

def Worker.wake (w : Worker) : Option Worker :=
  match w.turn with
  | none => some { w with turn := some (Work.scheduleCallbacks w.config w.active) }
  | some _ => none

def Worker.answer (env : Env) (db : Db) (x : Outside) (w : Worker) : Option (Worker × Db × List Event) :=
  match w.turn with
  | some (.await _ e k) => (handler env e db x).map (fun r => ({ w with turn := some (k r.1) }, r.2.1, r.2.2))
  | _ => none

def Worker.rest (w : Worker) : Option Worker :=
  match w.turn with
  | some (.done active _) => some { w with active := active, turn := none }
  | _ => none

def State.onWorker (s : State) (f : Worker → Option Worker) : Option (State × List Event) :=
  (s.worker.bind f).map (fun w => ({ s with worker := some w }, []))

def State.boot (env : Env) (s : State) (config : Config) : Option (State × List Event) :=
  match s.worker with
  | some _ => none
  | none =>
    match s.db.validateCompletionCallbacks env.json with
    | .ok () => some ({ s with worker := some { config := config } }, [])
    | .error e => some (s, [.refused e])

def step (env : Env) (s : State) : Act → Option (State × List Event)
  | .write w =>
    let r := w.run env s.db
    some ({ s with db := r.1 }, r.2)
  | .boot config => s.boot env config
  | .wake => s.onWorker Worker.wake
  | .join taskId outcome => s.onWorker (·.join taskId outcome)
  | .answer x =>
    (s.worker.bind (·.answer env s.db x)).map (fun r => (⟨r.2.1, some r.1⟩, r.2.2))
  | .rest => s.onWorker Worker.rest
  | .crash => some ({ s with worker := none }, [])

def machine (env : Env) : Lib.Machine State Act Event where
  init s := s.db.callbacks = .empty ∧ s.worker = none
  step := step env

end Manifold.Guardian.Hooks
