import Manifold.Lib.Table

/-!
# The push gateway's database

`crates/push-gateway-storage/migrations`. The `CHECK`s that a time is not negative are left out.
-/

namespace Manifold.Push

open Lib

structure Registration where
  recipientId : String
  installationId : String
  fcmToken : String
  platform : Option String := none
  createdAt : Int
  updatedAt : Int
  lastSeenAt : Int
  disabledAt : Option Int := none
  disabledReason : Option String := none
deriving DecidableEq

structure TokenOwner where
  fcmToken : String
  recipientId : String
  installationId : String
  updatedAt : Int
deriving DecidableEq

inductive OpenBehavior where
  | openApp
  | openWorkflow
  | openDeepLink

def OpenBehavior.asStr : OpenBehavior → String
  | .openApp => "open_app"
  | .openWorkflow => "open_workflow"
  | .openDeepLink => "open_deep_link"

inductive Privacy where
  | displayText
  | dataOnly
deriving DecidableEq

def Privacy.asStr : Privacy → String
  | .displayText => "display_text"
  | .dataOnly => "data_only"

structure HookContent where
  kind : Option String := none
  workflow : Option String := none
  action : Option String := none
  deepLink : Option String := none
  openBehavior : OpenBehavior := .openApp
  privacy : Privacy := .displayText
  title : Option String := none
  body : Option String := none
  dataJson : String

structure Hook where
  hookId : String
  hookSecretHash : String
  recipientId : String
  installationId : String
  content : HookContent
  createdAt : Int
  expiresAt : Option Int
  revokedAt : Option Int := none
  maxUses : Option Int
  useCount : Int := 0
  lastUsedAt : Option Int := none
  rateLimitWindowSeconds : Option Int
  rateLimitMaxRequests : Option Int
  rateLimitWindowStartedAt : Option Int := none
  rateLimitCount : Int := 0

structure EventRow where
  eventId : String
  hookId : String
  callerIdempotencyKey : Option String
  recipientId : String
  notificationJson : String
  targetCount : Int
  createdAt : Int

structure Tombstone where
  hookId : String
  callerIdempotencyKey : String
  targetCount : Int
  acceptedAt : Int
  retainUntil : Int

inductive Status where
  | pending
  | inProgress
  | retrying
  | succeeded
  | invalidToken
  | deadLetter
deriving DecidableEq

/-- `status IN ('pending', 'retrying', 'in_progress')`. -/
def Status.active : Status → Bool
  | .pending | .retrying | .inProgress => true
  | .succeeded | .invalidToken | .deadLetter => false

/-- `status IN ('succeeded', 'invalid_token', 'dead_letter')`. -/
def Status.terminal : Status → Bool
  | .succeeded | .invalidToken | .deadLetter => true
  | .pending | .retrying | .inProgress => false

structure OutboxRow where
  outboxId : String
  eventId : String
  recipientId : String
  installationId : String
  fcmToken : String
  platform : Option String
  notificationJson : String
  status : Status
  attempts : Int
  nextAttemptAt : Int
  lastAttemptAt : Option Int := none
  lastError : Option String := none
  claimId : Option String := none
  createdAt : Int
  updatedAt : Int
deriving DecidableEq

structure Db where
  registrations : List Registration := []
  owners : List TokenOwner := []
  hooks : List Hook := []
  events : List EventRow := []
  tombstones : List Tombstone := []
  outbox : List OutboxRow := []

def toLimit (n : Nat) : Nat := min n (2 ^ 63 - 1)

/-- `ORDER BY key LIMIT n`. The order of rows with one key is open: `tie` settles it. -/
def firstBy {α : Type} (key : α → Int) (tie : α → Nat) (n : Nat) (rows : List α) : List α :=
  (rows.mergeSort (fun a b => key a < key b || key a == key b && tie a ≤ tie b)).take n

/-! ## The notification of an invocation -/

inductive Value where
  | string (s : String)
  | json (text : String)
deriving DecidableEq

structure Notification where
  recipientId : String
  notificationId : String
  kind : String
  title : Option String
  body : Option String
  data : List (String × Value)
deriving DecidableEq

structure ApiError where
  status : Nat
  code : String
  message : String
deriving DecidableEq

/-- JSON, the hash of a hook secret, and the checks of the provider on an outgoing notification. -/
structure Env where
  encodeData : List (String × Value) → String
  decodeData : String → Option (List (String × Value))
  encode : Notification → String
  decode : String → Option Notification
  hashHex : String → String
  validateOutbound : Notification → Except ApiError Unit

end Manifold.Push
