import Manifold.Liquidity.Public

/-!
# The provider advertisement

`advertisement.rs` and `advertisement_writer.rs` await by await. The outside judges readiness at each reading.
-/

namespace Manifold.Liquidity

open Lib

inductive AdvertisementPublicationStatus where
  | notReady | published | stale | withdrawn | failed
deriving DecidableEq

inductive RelayStatus where
  | connected | disconnected | published | failed
deriving DecidableEq

structure Advertisement where
  issuedAt : Timestamp
  expiresAt : Timestamp
  supportedSources : List SourceType := []
  holderAuthorizations : List String := []
  policy : ProviderPolicy := {}
  display : Option String := none
  apiEndpoints : List String := []
  apiVersions : List Nat := [protocolVersion]
  relayHints : List String := []
deriving DecidableEq

structure PublicationConfig where
  relays : List String
  republishInterval : Nat
  supportedSources : List SourceType := []
  policy : ProviderPolicy := {}
  providerDisplay : Option String := none
  address : String := ""
deriving DecidableEq

structure RelayPublicationState where
  relayUrl : String
  status : RelayStatus
  lastError : Option String
  lastSeenAt : Option Timestamp
deriving DecidableEq

structure AdvertisementRow where
  status : AdvertisementPublicationStatus := .notReady
  advertisement : Option Advertisement := none
  lastPublishedAt : Option Timestamp := none
  expiresAt : Option Timestamp := none
  withdrawnAt : Option Timestamp := none
  lastError : Option String := none
deriving DecidableEq

structure AdvertisementRecord where
  row : AdvertisementRow
  relayStates : List RelayPublicationState
deriving DecidableEq

structure RelaySending where
  relayUrl : String
  advertisement : Advertisement
  withdrawal : Bool
deriving DecidableEq

structure Advertiser where
  clock : Timestamp := 0
  lastAttempt : Timestamp := 1
  config : Option PublicationConfig := none
  storedKey : Bool := false
  /-- The auth provider of the process signs with it. -/
  key : Bool := false
  row : AdvertisementRow := {}
  relayStates : List RelayPublicationState := []
  sent : List RelaySending := []
  held : String → Option Advertisement := fun _ => none

/-! ## Statements -/

namespace Advertiser

variable (s : Advertiser)

def loadRelayStates : List RelayPublicationState := s.relayStates.insertionSort (·.relayUrl ≤ ·.relayUrl)

def record : AdvertisementRecord := ⟨s.row, s.loadRelayStates⟩

def clearWithdrawn : Advertiser := { s with row := { s.row with withdrawnAt := none } }

def persistNotReady (reason : Option String) : Advertiser :=
  { s with row := { s.row with status := .notReady, lastError := reason } }

def persistPublicationStatus (status : AdvertisementPublicationStatus) (error : Option String) : Advertiser :=
  let published := if status = .published then some s.clock else none
  let withdrawn := if status = .withdrawn then some s.clock else none
  -- a standing withdrawal keeps its status and its error
  let stands := s.row.withdrawnAt.isSome && withdrawn.isNone
  { s with row :=
    { s.row with
      status := if stands then s.row.status else status
      lastPublishedAt := published.or s.row.lastPublishedAt
      withdrawnAt := withdrawn.or s.row.withdrawnAt
      lastError := if stands then error.or s.row.lastError else error } }

def insertAdvertisement (ad : Advertisement) : Advertiser :=
  { s with row :=
    { s.row with
      status := .stale
      advertisement := some ad
      expiresAt := some ad.expiresAt
      lastError := none } }

def upsertRelayState (url : String) (status : RelayStatus) (error : Option String) : Advertiser :=
  let state : RelayPublicationState := ⟨url, status, error, some s.clock⟩
  { s with relayStates :=
      if s.relayStates.any (·.relayUrl = url) then
        Table.update (·.relayUrl = url) (fun _ => state) s.relayStates
      else s.relayStates ++ [state] }

/-- `next_timestamp`: the clock's second, once it is newer than the last attempt. -/
def nextTimestamp : Option Advertiser :=
  if s.lastAttempt < s.clock then some { s with lastAttempt := s.clock } else none

def send (sending : RelaySending) : Advertiser := { s with sent := s.sent ++ [sending] }

def deliver (url : String) (ad : Advertisement) : Advertiser :=
  { s with held := fun u =>
      if u = url && (s.held u).all (·.issuedAt < ad.issuedAt) then some ad else s.held u }

end Advertiser

def advertisedEndpointUrl (nodeId : String) : String :=
  "iroh://" ++ nodeId ++ "?alpn=fedi%2Fflip%2Fpublic-liquidity%2F1"

def buildAdvertisement (config : PublicationConfig) (issuedAt : Timestamp) (envelopes : List String) :
    Advertisement where
  issuedAt := issuedAt
  expiresAt := issuedAt + config.republishInterval * 2
  supportedSources := config.supportedSources
  holderAuthorizations := envelopes
  policy := config.policy
  display := config.providerDisplay
  apiEndpoints := [advertisedEndpointUrl config.address]
  relayHints := config.relays

def expireAdvertisement (issuedAt : Timestamp) : Advertisement where
  issuedAt := issuedAt
  expiresAt := issuedAt

/-! ## Calls -/

inductive RepublishPhase where
  | readiness
  | clear
  | lock
  | judge
  | record
  | setup
  | identity (config : PublicationConfig) (key : Bool)
  | pace (config : PublicationConfig) (key : Bool)
  | envelopes (config : PublicationConfig) (key : Bool) (issuedAt : Timestamp)
  | commit (relays : List String) (key : Bool) (ad : Advertisement)
  /-- About to read the intent again ahead of the next relay. -/
  | relay (ad : Advertisement) (failed : Bool) (rest : List String)
  | ready (ad : Advertisement) (failed : Bool) (url : String) (rest : List String)
  | publishing (ad : Advertisement) (failed : Bool) (url : String) (rest : List String)
  | recording (ad : Advertisement) (failed : Bool) (url : String) (error : Option String) (rest : List String)
  | outcome (status : AdvertisementPublicationStatus) (error : Option String)
  | keyless (rest : List String)
  | notReady (reason : Option String)
  | load

inductive WithdrawPhase where
  | was
  | intent
  | lock
  | relayStates
  | stored (urls : List String)
  | pace (urls : List String)
  | paceFailed (error : ServiceError)
  /-- About to read the intent again; every relay call so far was answered. -/
  | relay (expired : Option Advertisement) (answered : Bool) (rest : List String)
  | withdrawing (expired : Advertisement) (answered : Bool) (url : String) (rest : List String)
  | recording (expired : Option Advertisement) (answered : Bool) (url : String) (error : Option String)
      (rest : List String)
  | load (answered : Bool)

inductive AdvertCall where
  | reconcile
  | refreshRelays
  | notReady (reason : Option String)
  | republish (force : Bool) (phase : RepublishPhase)
  | withdraw (reason : Option String) (lost : Option (Option String)) (phase : WithdrawPhase)

structure AdvertChoice where
  dbFails : Bool := false
  bound : Bool := true
  ready : Bool := true
  reason : Option String := none
  waitFails : Bool := false
  refused : Bool := false
  envelopes : List String := []
  relayError : Option String := none

inductive AdvertEvent where
  | intent
  | forced
  | republished (answer : ServiceResult AdvertisementRecord)
  | withdrew (answer : ServiceResult AdvertisementRecord) (answered : Bool)
deriving DecidableEq

abbrev AdvertNext := Advertiser × Option AdvertCall × List AdvertEvent

def waitError : ServiceError :=
  failedPrecondition "advertisement writer could not obtain a newer clock second in time"

namespace RepublishPhase

def holdsWriter : RepublishPhase → Bool
  | .readiness | .clear | .lock => false
  | _ => true

def onDatabase : RepublishPhase → Bool
  | .lock | .pace .. | .publishing .. => false
  | _ => true

def fail (s : Advertiser) (e : ServiceError) : Option AdvertNext := some (s, none, [.republished (.error e)])

def resume (s : Advertiser) (force : Bool) (x : AdvertChoice) (phase : RepublishPhase) : Option AdvertNext :=
  let goto (s : Advertiser) (phase : RepublishPhase) : Option AdvertNext :=
    some (s, some (.republish force phase), [])
  if x.dbFails && phase.onDatabase then fail s (internalError "database")
  else
    match phase with
    | .readiness => goto s (if x.ready then .clear else .lock)
    | .clear => some (s.clearWithdrawn, some (.republish force .lock), [.forced])
    | .lock => goto s .judge
    | .judge => goto s (if x.ready then .record else .notReady x.reason)
    | .record => goto s (if s.row.withdrawnAt.isSome then .load else .setup)
    | .setup =>
      match s.config with
      | none => fail s (failedPrecondition "setup config is not configured")
      | some config => goto s (.identity config s.key)
    | .identity config key =>
      if s.storedKey then goto s (.pace config key)
      else
        fail s (failedPrecondition
          "provider identity is not installed; set FLIP_PROVIDER_NOSTR_SECRET_KEY")
    | .pace config key =>
      if x.waitFails then fail s waitError
      else s.nextTimestamp.bind (fun s' => goto s' (.envelopes config key s'.lastAttempt))
    | .envelopes config key issuedAt =>
      if x.refused then fail s (failedPrecondition "provider display metadata is invalid")
      else goto s (.commit config.relays key (buildAdvertisement config issuedAt x.envelopes))
    | .commit relays key ad =>
      if s.row.withdrawnAt.isSome then goto s .load
      else if !x.ready then goto s (.notReady x.reason)
      else goto (s.insertAdvertisement ad) (if key then .relay ad false relays else .keyless relays)
    | .relay _ failed [] => goto s (.outcome (if failed then .failed else .published) none)
    | .relay ad failed (url :: rest) =>
      goto s (if s.row.withdrawnAt.isSome then .load else .ready ad failed url rest)
    | .ready ad failed url rest =>
      if x.ready then goto (s.send ⟨url, ad, false⟩) (.publishing ad failed url rest)
      else goto s (.notReady x.reason)
    | .publishing ad failed url rest =>
      match x.relayError with
      | none => goto (s.deliver url ad) (.recording ad failed url none rest)
      | some error => goto s (.recording ad true url (some error) rest)
    | .recording ad failed url error rest =>
      goto (s.upsertRelayState url (if error.isNone then .published else .failed) error) (.relay ad failed rest)
    | .outcome status error => goto (s.persistPublicationStatus status error) .load
    | .keyless [] => goto s (.outcome .failed (some "provider identity has no Nostr signing key"))
    | .keyless (url :: rest) =>
      goto (s.upsertRelayState url .failed (some "provider identity has no Nostr signing key")) (.keyless rest)
    | .notReady reason => goto (s.persistNotReady reason) .load
    | .load => some (s, none, [.republished (.ok s.record)])

end RepublishPhase

namespace WithdrawPhase

def holdsWriter : WithdrawPhase → Bool
  | .was | .intent | .lock => false
  | _ => true

def onDatabase : WithdrawPhase → Bool
  | .lock | .pace .. | .withdrawing .. => false
  | _ => true

def fail (s : Advertiser) (e : ServiceError) : Option AdvertNext := some (s, none, [.withdrew (.error e) false])

def resume (s : Advertiser) (reason : Option String) (lost : Option (Option String)) (x : AdvertChoice)
    (phase : WithdrawPhase) : Option AdvertNext :=
  let goto (s : Advertiser) (phase : WithdrawPhase) : Option AdvertNext :=
    some (s, some (.withdraw reason lost phase), [])
  if x.dbFails && phase.onDatabase then fail s (internalError "database")
  else
    match phase with
    | .was => goto s .intent
    | .intent =>
      some (s.persistPublicationStatus .withdrawn reason, some (.withdraw reason lost .lock), [.intent])
    | .lock => goto s .relayStates
    | .relayStates => goto s (.stored (s.loadRelayStates.map (·.relayUrl)))
    | .stored urls =>
      -- a newer explicit republication superseded this one
      if s.row.withdrawnAt.isNone then goto s (.load true)
      -- without the key or an advertisement nothing was published
      else if s.key && s.row.advertisement.isSome then goto s (.pace urls)
      else goto s (.relay none true urls)
    | .pace urls =>
      if x.waitFails then goto s (.paceFailed waitError)
      else
        s.nextTimestamp.bind (fun s' =>
          if x.refused then fail s' (internalError "sign advertisement")
          else goto s' (.relay (some (expireAdvertisement s'.lastAttempt)) true urls))
    | .paceFailed error =>
      fail (s.persistPublicationStatus .failed (some error.message)) error
    | .relay _ answered [] => goto s (.load answered)
    | .relay expired answered (url :: rest) =>
      if s.row.withdrawnAt.isNone then goto s (.load answered)
      else
        match expired with
        | none => goto s (.recording none answered url none rest)
        | some ad => goto (s.send ⟨url, ad, true⟩) (.withdrawing ad answered url rest)
    | .withdrawing ad answered url rest =>
      match x.relayError with
      | none => goto (s.deliver url ad) (.recording (some ad) answered url none rest)
      | some error => goto s (.recording (some ad) false url (some ("withdraw failed: " ++ error)) rest)
    | .recording expired answered url error rest =>
      goto (s.upsertRelayState url (if error.isNone then .disconnected else .failed) (error.or reason))
        (.relay expired answered rest)
    | .load answered =>
      some (s, lost.map .notReady, [.withdrew (.ok s.record) answered])

end WithdrawPhase

namespace AdvertCall

def holdsWriter : AdvertCall → Bool
  | .republish _ phase => phase.holdsWriter
  | .withdraw _ _ phase => phase.holdsWriter
  | _ => false

def wantsWriter : AdvertCall → Bool
  | .republish _ .lock | .withdraw _ _ .lock => true
  | _ => false

def resume (s : Advertiser) (x : AdvertChoice) : AdvertCall → Option AdvertNext
  | .reconcile =>
    if !x.bound then some (s, none, [])
    else if x.dbFails then some (s, none, [])
    else if x.ready then some (s, some (.republish false .lock), [])
    else some (s, some (.withdraw x.reason (some x.reason) .was), [])
  | .refreshRelays =>
    if x.dbFails then some (s, none, [])
    else if x.ready then some (s, some (.republish false .lock), [])
    else some (s, some (.notReady x.reason), [])
  | .notReady reason => if x.dbFails then some (s, none, []) else some (s.persistNotReady reason, none, [])
  | .republish force phase => phase.resume s force x
  | .withdraw reason lost phase => phase.resume s reason lost x

end AdvertCall

inductive AdvertBegin where
  | reconcile
  | refreshRelays
  | republish (force : Bool)
  | withdraw (reason : Option String)

inductive AdvertAct where
  | tick (seconds : Nat)
  | configure (config : PublicationConfig)
  | storeKey
  | installKey
  | deliver (sending : RelaySending)
  | restart
deriving DecidableEq

def advertAct (s : Advertiser) : AdvertAct → Option Advertiser
  | .tick seconds => some { s with clock := s.clock + seconds }
  | .configure config => some { s with config := some config }
  | .storeKey => some { s with storedKey := true }
  | .installKey => if s.storedKey then some { s with key := true } else none
  | .deliver sending =>
    if sending ∈ s.sent then some (s.deliver sending.relayUrl sending.advertisement) else none
  | .restart => some { s with lastAttempt := s.clock + 1, key := s.storedKey }

def advertising : Service Advertiser AdvertCall AdvertBegin AdvertChoice AdvertAct AdvertEvent where
  init s := ∃ startup, s = { clock := startup, lastAttempt := startup + 1 }
  start _ call :=
    match call with
    | .reconcile => some .reconcile
    | .refreshRelays => some .refreshRelays
    | .republish force => some (.republish force (if force then .readiness else .lock))
    | .withdraw reason => some (.withdraw reason none .was)
  resume s call x := call.resume s x
  outside s b := (advertAct s.shared b).map (fun t => (t, []))
  clears b :=
    match b with
    | .restart => true
    | _ => false

abbrev AdvertServer := Server Advertiser AdvertCall

abbrev AdvertTurn := Lib.Turn AdvertBegin AdvertChoice AdvertAct

def oneWriter : AdvertServer → AdvertTurn → Bool :=
  Service.mutex AdvertCall.wantsWriter AdvertCall.holdsWriter

/-! ## Sends that are on record -/

def AdvertCall.unrecorded (s : Advertiser) : AdvertCall → Bool
  | .republish _ (.publishing _ _ url _) | .republish _ (.recording _ _ url _ _) =>
    s.relayStates.all (·.relayUrl ≠ url)
  | _ => false

def recordsSends (s : AdvertServer) : AdvertTurn → Bool
  | .drop number => !(s.phase number).any (·.unrecorded s.shared)
  | .resume number x => !(x.dbFails && (s.phase number).any (·.unrecorded s.shared))
  | .outside .restart => s.calls.all (fun c => !c.2.unrecorded s.shared)
  | _ => true

end Manifold.Liquidity
