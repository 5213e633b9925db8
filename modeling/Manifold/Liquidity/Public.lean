import Manifold.Lib.Server
import Manifold.Liquidity.Calls
import Manifold.Liquidity.Setup

/-!
# Answering liquidity requests

`public.rs` await by await. The server also runs the writers of the setup.
-/

namespace Manifold.Liquidity

open Lib

inductive RejectionCode where
  | unsupportedNetwork | unsupportedSourceType | requestExpired | invalidAmountBounds | policyMismatch
  | providerUnavailable | insufficientCapacity | requestConflict | invalidDetailsPayload | invalidCredentials
  | invalidSeatBinding | versionUnsupported | internalError
deriving DecidableEq

/-! ## Pre-validation -/

def protocolVersion : Nat := 1

def maxRequestLifetimeSecs : Nat := 3600

def maxIssuedAtSkewSecs : Nat := 120

def validateAmountBounds (r : LiquidityRequest) : Except String Unit :=
  if r.gatewayMinAmount = 0 && r.stabilityMinAmount = 0 then
    .error "at least one source minimum must be non-zero"
  else if r.gatewayMinAmount = 0 && r.gatewayMaxAmount.isSome then
    .error "gateway max must be absent when gateway is not requested"
  else if r.stabilityMinAmount = 0 && r.stabilityMaxAmount.isSome then
    .error "stability max must be absent when stability is not requested"
  else if r.gatewayMaxAmount.any (· < r.gatewayMinAmount) then
    .error "gateway max must be greater than or equal to gateway min"
  else if r.stabilityMaxAmount.any (· < r.stabilityMinAmount) then
    .error "stability max must be greater than or equal to stability min"
  else .ok ()

def validateSupportedSources (r : LiquidityRequest) (supported : List SourceType) : Except String Unit :=
  if 0 < r.gatewayMinAmount && !supported.contains .gateway then .error "gateway source type is not supported"
  else if 0 < r.stabilityMinAmount && !supported.contains .stabilityPool then
    .error "stability_pool source type is not supported"
  else .ok ()

def preValidateAgainst (detailsHash : LiquidityRequest → ServiceResult String) (config : SetupConfig)
    (request : LiquidityRequest) (now : Timestamp) : ServiceResult (Option (RejectionCode × String)) :=
  if request.version ≠ protocolVersion then
    .ok (some (.versionUnsupported, "Public Liquidity API version is unsupported"))
  else if request.expiresAt ≤ now then .ok (some (.requestExpired, "request is expired"))
  else if maxRequestLifetimeSecs < request.expiresAt - request.issuedAt then
    .ok (some (.requestExpired, "request lifetime exceeds 3600 seconds"))
  else if now + maxIssuedAtSkewSecs < request.issuedAt then
    .ok (some (.requestExpired, "request issued_at is too far in the future"))
  else if request.network ≠ config.network || !config.policy.supportedNetworks.contains request.network then
    .ok (some (.unsupportedNetwork, "request network is not supported"))
  else
    match validateAmountBounds request with
    | .error reason => .ok (some (.invalidAmountBounds, reason))
    | .ok _ =>
      match validateSupportedSources request config.supportedSources with
      | .error reason => .ok (some (.unsupportedSourceType, reason))
      | .ok _ => do
          let expected ← detailsHash request
          return if expected ≠ request.detailsPayloadHash then
            some (.invalidDetailsPayload, "details_payload_hash does not match canonical request details")
          else none

def preValidationFailure (detailsHash : LiquidityRequest → ServiceResult String) (setup : StoredSetup)
    (publicReady : Bool) (request : LiquidityRequest) (now : Timestamp) :
    ServiceResult (Option (RejectionCode × String)) :=
  if !publicReady then .ok (some (.providerUnavailable, "provider public endpoint is not ready"))
  else
    match (if setup.ready then setup.config else none) with
    | none => .ok (some (.providerUnavailable, "setup is not ready"))
    | some config => preValidateAgainst detailsHash config request now

/-! ## The status of an allocation -/

structure AllocationItemStatus where
  target : AllocationItemTarget
  status : ItemStatus
  fulfilledAmount : Option Sats
  completionEvidence : Option CompletionEvidence
  failure : Option LiquidityFailure
  updatedAt : Timestamp
deriving DecidableEq

structure AllocationStatus where
  detailsPayloadHash : String
  providerPubkey : Pubkey
  itemStatuses : List AllocationItemStatus
deriving DecidableEq

def allocationItemStatus (i : AllocationItem) : AllocationItemStatus where
  target := i.target
  status := i.status
  fulfilledAmount := i.fulfilledAmount
  completionEvidence := i.completionEvidence
  failure := i.failure
  updatedAt := i.updatedAt

def Db.itemStatuses (db : Db) (federationId : FederationId) : List AllocationItemStatus :=
  ((db.itemsOf federationId).insertionSort (fun i j => i.itemId ≤ j.itemId)).map allocationItemStatus

def Db.allocationStatus (db : Db) (a : Allocation) : AllocationStatus :=
  ⟨a.detailsPayloadHash, a.providerPubkey, db.itemStatuses a.federationId⟩

/-- The status that `plan_allocation` builds, stamped at the clock of the planning. -/
def initialStatus (request : LiquidityRequest) (plan : AcceptedPlan) (now : Timestamp) : AllocationStatus :=
  ⟨request.detailsPayloadHash, request.providerPubkey,
    plan.items.map (fun p => ⟨p.target, .pending, none, none, none, now⟩)⟩

def AllocationStatus.stampedAt (now : Timestamp) (status : AllocationStatus) : AllocationStatus :=
  { status with itemStatuses := status.itemStatuses.map ({ · with updatedAt := now }) }

/-! ## A request -/

inductive AllocationAdmission where
  | open | closingForRestore
deriving DecidableEq

inductive RequestOutcome where
  | accepted (status : AllocationStatus)
  | rejected (code : RejectionCode) (reason : Option String)
deriving DecidableEq

inductive RequestPhase where
  | loadSetup
  | readiness (setup : StoredSetup)
  | owner (setup : StoredSetup) (publicReady : Bool)
  | verifying (setup : StoredSetup) (config : SetupConfig)
  | verified (setup : StoredSetup) (config : SetupConfig)
  | admitted (setup : StoredSetup) (config : SetupConfig)
  | conflicted
  | statusRow (held : Bool)
  | statusItems (held : Bool) (row : Allocation)

def RequestPhase.holdsAdmission : RequestPhase → Bool
  | .admitted .. | .conflicted => true
  | .statusRow held | .statusItems held _ => held
  | _ => false

def RequestPhase.betweenReads : RequestPhase → Bool
  | .statusRow _ | .statusItems .. => true
  | _ => false

structure RequestChoice where
  dbFails : Bool := false
  /-- The clock where expiry is checked. -/
  now : Timestamp := 0
  /-- The clock where the signed status is built, and the database's at the `INSERT` of each item. -/
  planned : Timestamp := 0
  stamp : SourceType → Timestamp := fun _ => 0
  publicReady : Bool := true
  rejection : Option (RejectionCode × Option String) := none

inductive OfficeEvent where
  | verified (request : LiquidityRequest) (revision : Nat)
  | answered (request : LiquidityRequest) (answer : ServiceResult RequestOutcome)
  | setupAnswered (verb : SetupVerb) (answer : ServiceResult Unit)
deriving DecidableEq

abbrev RequestNext := RequestPhase ⊕ ServiceResult RequestOutcome

def statelessRejection (code : RejectionCode) (reason : Option String) : RequestNext :=
  .inr (.ok (.rejected code reason))

def answeredByExisting (request : LiquidityRequest) (disclosure : Disclosure) (held : Bool)
    (row : Option Allocation) : Option RequestNext :=
  match row.bind (answerExisting request disclosure) with
  | none => none
  | some (.conflict reason) => some (statelessRejection .requestConflict (some reason))
  | some _ => some (.inl (.statusRow held))

def preValidated (detailsHash : LiquidityRequest → ServiceResult String) (setup : StoredSetup)
    (publicReady : Bool) (request : LiquidityRequest) (now : Timestamp) : RequestNext :=
  match preValidationFailure detailsHash setup publicReady request now, setup.config with
  | .error e, _ => .inr (.error e)
  | .ok (some (code, reason)), _ => statelessRejection code (some reason)
  | .ok none, none => .inr (.error (internalError "pre-validation passed without setup config"))
  | .ok none, some config => .inl (.verifying setup config)

def answeredByAcceptance (request : LiquidityRequest) (planned : Timestamp) : Db.Acceptance → RequestNext
  | .setupChanged => statelessRejection .providerUnavailable
      (some "provider setup changed while this request was being verified; request again against the current terms")
  | .expired => statelessRejection .requestExpired
      (some "request expired while its trust material was being verified")
  | .insufficientCapacity => statelessRejection .insufficientCapacity
      (some "wallet-backed capacity is insufficient for this request")
  | .conflict => .inl .conflicted
  | .accepted plan => .inr (.ok (.accepted (initialStatus request plan planned)))

def resumeRequest (detailsHash : LiquidityRequest → ServiceResult String) (admission : AllocationAdmission)
    (request : LiquidityRequest) (db : Db) (x : RequestChoice) (phase : RequestPhase) : Db × RequestNext :=
  if x.dbFails then (db, .inr (.error (internalError "database")))
  else
    match phase with
    | .loadSetup => (db, .inl (.readiness db.setup))
    | .readiness setup => (db, .inl (.owner setup x.publicReady))
    | .owner setup publicReady =>
      (db, (answeredByExisting request .requesterOnly false (db.allocation request.target.federationId)).getD
        (preValidated detailsHash setup publicReady request x.now))
    | .verifying setup config =>
      match x.rejection with
      | some (code, reason) => (db, statelessRejection code reason)
      | none => (db, .inl (.verified setup config))
    | .verified setup config =>
      match admission with
      | .open => (db, .inl (.admitted setup config))
      | .closingForRestore =>
        (db, .inr (.error (unavailable "new allocation acceptance is closed for live restore")))
    | .admitted setup config =>
      match db.acceptRequest config setup.revision request x.now x.stamp with
      | .error e => (db, .inr (.error e))
      | .ok (acceptance, db', _) => (db', answeredByAcceptance request x.planned acceptance)
    | .conflicted =>
      (db, (answeredByExisting request .verified true (db.allocation request.target.federationId)).getD
        (.inr (.error (internalError "allocation insert was ignored but no allocation exists"))))
    | .statusRow held =>
      match db.allocation request.target.federationId with
      | none => (db, .inr (.error (internalError "allocation row exists without a loadable status")))
      | some row => (db, .inl (.statusItems held row))
    | .statusItems _ row => (db, .inr (.ok (.accepted (db.allocationStatus row))))

def requestEvents (request : LiquidityRequest) : RequestNext → List OfficeEvent
  | .inr answer => [.answered request answer]
  | .inl (.verified setup _) => [.verified request setup.revision]
  | .inl _ => []

/-! ## The server -/

structure Office where
  world : World := {}
  admission : AllocationAdmission := .open

inductive OfficeCall where
  | liquidity (request : LiquidityRequest) (phase : RequestPhase)
  | setup (verb : SetupVerb) (phase : SetupPhase)

inductive OfficeBegin where
  | requestLiquidity (request : LiquidityRequest)
  | setup (verb : SetupVerb)

structure OfficeChoice where
  request : RequestChoice := {}
  setup : SetupChoice := {}

inductive OfficeAct where
  | ask (e : Ask) (x : Outside)
  | closeAdmission
  | restart

def Office.setDb (s : Office) (db : Db) : Office := { s with world := { s.world with db := db } }

def OfficeCall.holdsAdmission : OfficeCall → Bool
  | .liquidity _ phase => phase.holdsAdmission
  | .setup .. => false

def Ask.accepts : Ask → Bool
  | .acceptRequest .. => true
  | _ => false

def resumeOffice (detailsHash : LiquidityRequest → ServiceResult String) (s : Office) (x : OfficeChoice) :
    OfficeCall → Office × Option OfficeCall × List OfficeEvent
  | .liquidity request phase =>
    let r := resumeRequest detailsHash s.admission request s.world.db x.request phase
    (s.setDb r.1, r.2.getLeft?.map (.liquidity request), requestEvents request r.2)
  | .setup verb phase =>
    let r := verb.resume s.world.db x.setup phase
    (s.setDb r.1, r.2.getLeft?.map (.setup verb), r.2.getRight?.elim [] (fun answer => [.setupAnswered verb answer]))

def officeAct (s : Server Office OfficeCall) : OfficeAct → Option Office
  | .ask e x =>
    if e.accepts then none
    else (handler e s.shared.world x).map (fun r => { s.shared with world := r.2.1 })
  | .closeAdmission =>
    if s.shared.admission = .open && s.calls.all (fun c => !c.2.holdsAdmission) then
      some { s.shared with admission := .closingForRestore }
    else none
  | .restart => some { s.shared with admission := .open }

def office (detailsHash : LiquidityRequest → ServiceResult String) :
    Service Office OfficeCall OfficeBegin OfficeChoice OfficeAct OfficeEvent where
  init s := s = {}
  start _ call :=
    match call with
    | .requestLiquidity request => some (.liquidity request .loadSetup)
    | .setup verb => verb.start.map (.setup verb)
  resume s call x := some (resumeOffice detailsHash s x call)
  outside s b := (officeAct s b).map (fun t => (t, []))
  clears b :=
    match b with
    | .restart => true
    | _ => false

abbrev OfficeTurn := Lib.Turn OfficeBegin OfficeChoice OfficeAct

/-! ## Reads of one allocation -/

def OfficeCall.reading (f : FederationId) : OfficeCall → Bool
  | .liquidity request phase => phase.betweenReads && request.target.federationId = f
  | .setup .. => false

/-- No idle allocation is released or taken over while a call stands between its reads of it. -/
def apart (s : Server Office OfficeCall) : OfficeTurn → Bool
  | .outside (.ask (.releaseAllocation f) _) =>
    !(s.shared.world.db.allocationHolding f).isIdle || s.calls.all (fun c => !c.2.reading f)
  | .resume number _ =>
    match s.phase number with
    | some (.liquidity request (.admitted ..)) =>
      !s.shared.world.db.takesOver request ||
        s.calls.all (fun c => !c.2.reading request.target.federationId)
    | _ => true
  | _ => true

end Manifold.Liquidity
