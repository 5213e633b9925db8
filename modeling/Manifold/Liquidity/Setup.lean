import Manifold.Liquidity.Admission

/-!
# The stored setup

`setup_store.rs`: a writer reads the row, and writes it back in a later transaction that is fenced on its revision.
-/

namespace Manifold.Liquidity

structure FundingPolicyConfig where
  feeReserve : Sats
  confirmations : Nat
  stabilityPoolMinFeeRatePpb : Nat
  inDoubtReviewAfterSecs : Nat
  gatewayClaimReviewAfterSecs : Nat
deriving DecidableEq

structure CapacityConfig where
  mode : CapacityMode
  explicitCap : Option Sats
  supportedSources : List SourceType
deriving DecidableEq

namespace SetupConfig

def fundingPolicy (c : SetupConfig) : FundingPolicyConfig :=
  ⟨c.feeReserve, c.confirmations, c.stabilityPoolMinFeeRatePpb, c.inDoubtReviewAfterSecs, c.gatewayClaimReviewAfterSecs⟩

def setFundingPolicy (c : SetupConfig) (p : FundingPolicyConfig) : SetupConfig :=
  { c with
    feeReserve := p.feeReserve
    confirmations := p.confirmations
    stabilityPoolMinFeeRatePpb := p.stabilityPoolMinFeeRatePpb
    inDoubtReviewAfterSecs := p.inDoubtReviewAfterSecs
    gatewayClaimReviewAfterSecs := p.gatewayClaimReviewAfterSecs }

def setCapacity (c : SetupConfig) (p : CapacityConfig) : SetupConfig :=
  { c with capacityMode := p.mode, explicitCap := p.explicitCap, supportedSources := p.supportedSources }

def setAddress (c : SetupConfig) (address : String) : SetupConfig :=
  { c with advertisedEndpoint := { c.advertisedEndpoint with address := address } }

end SetupConfig

def ChainObserverBackend.setPassword (hasPassword : Bool) : ChainObserverBackend → ChainObserverBackend
  | .esplora url => .esplora url
  | .bitcoind url username _ => .bitcoind url username hasPassword

structure SetupRequest where
  gatewayId : Option String
  /-- Everything besides the gateway id. The password flag in it is not read. -/
  config : SetupConfig
deriving DecidableEq

inductive ProviderDisplayPatch where
  | set (display : String)
  | clear
deriving DecidableEq

structure ProviderConfigPatch where
  policy : Option ProviderPolicy := none
  relays : Option (List String) := none
  capacity : Option CapacityConfig := none
  fundingPolicy : Option FundingPolicyConfig := none
  replenishment : Option String := none
  advertisedEndpoint : Option RpcEndpointConfig := none
  advertisement : Option String := none
  providerDisplay : Option ProviderDisplayPatch := none
deriving DecidableEq

def setupConfigToView (request : SetupRequest) (hasBitcoindPassword : Bool) : ServiceResult SetupConfig :=
  match request.gatewayId with
  | none => .error (invalidArgument "gateway.gateway_id is required in Phase 1")
  | some gatewayId =>
    .ok { request.config with
      gatewayId := gatewayId
      chainObserver := request.config.chainObserver.setPassword hasBitcoindPassword }

def applyProviderPatch (config : SetupConfig) (patch : ProviderConfigPatch) : SetupConfig :=
  let config := patch.policy.elim config (fun policy => { config with policy := policy })
  let config := patch.relays.elim config (fun relays => { config with relays := relays })
  let config := patch.capacity.elim config config.setCapacity
  let config := patch.fundingPolicy.elim config config.setFundingPolicy
  let config := patch.replenishment.elim config (fun r => { config with replenishment := r })
  let config := patch.advertisedEndpoint.elim config (fun e => { config with advertisedEndpoint := e })
  let config := patch.advertisement.elim config (fun a => { config with advertisement := a })
  match patch.providerDisplay with
  | none => config
  | some (.set display) => { config with providerDisplay := some display }
  | some .clear => { config with providerDisplay := none }

/-! ## Checks -/

def ensureTrustFixturesAllowNetwork (trustFixtures : Bool) (network : BitcoinNetwork) : ServiceResult Unit :=
  if trustFixtures && network = .bitcoin then
    .error (invalidArgument ("trust fixtures cannot be used with the bitcoin mainnet network; restart the " ++
      "daemon without --trust-fixtures (FLIP_TRUST_FIXTURES)"))
  else .ok ()

/-- The gateway decides where provider money goes, so its identity is set once. -/
def ensureGatewayIdentityUnchanged (stored : Option SetupConfig) (request : SetupRequest) : ServiceResult Unit :=
  match stored with
  | none => .ok ()
  | some stored =>
    if request.gatewayId.any (· ≠ stored.gatewayId) then
      .error (failedPrecondition ("gateway_id is fixed at first setup and cannot be changed from " ++
        stored.gatewayId ++ " to " ++ request.gatewayId.getD "" ++
        "; it decides which gateway an accepted allocation pays"))
    else if request.config.adminUrl ≠ stored.adminUrl then
      .error (failedPrecondition ("gateway admin_url is fixed at first setup and cannot be changed from " ++
        stored.adminUrl ++ " to " ++ request.config.adminUrl ++
        "; it decides which wallet an accepted allocation pays"))
    else .ok ()

def fundingPolicyChanges (stored : Option SetupConfig) (candidate : FundingPolicyConfig) : Bool :=
  stored.any (fun stored => stored.fundingPolicy ≠ candidate)

def refuseUnsettledWork (items operations : Nat) : ServiceResult Unit :=
  if 0 < items || 0 < operations then
    .error (failedPrecondition ("funding policy cannot change while work that was accepted under the current " ++
      "one is still in flight: " ++ toString items ++ " allocation item(s) and " ++ toString operations ++
      " wallet operation(s) are unfinished. Let them terminate, or cancel them, and retry"))
  else .ok ()

namespace Db

variable (db : Db)

def unsettledWorkCounts : Nat × Nat :=
  (db.items.countP (·.status.reserving), db.operations.countP (·.status.pendingSettlement))

def ensureFundingPolicySettled (stored : Option SetupConfig) (candidate : FundingPolicyConfig) : ServiceResult Unit :=
  if fundingPolicyChanges stored candidate then
    refuseUnsettledWork db.unsettledWorkCounts.1 db.unsettledWorkCounts.2
  else .ok ()

/-- The write lands only on the revision that its caller read; an absent row has revision 0. -/
def tryUpsertSetupState (expectedRevision : Nat) (ready : Bool) (config : SetupConfig)
    (validation : SetupValidationSummary) : Option Db :=
  if db.setup.revision = expectedRevision then
    some { db with setup := ⟨some config, ready, expectedRevision + 1, some validation⟩ }
  else none

end Db

def setupRevisionConflict : ServiceError :=
  failedPrecondition ("the stored setup configuration changed while this update was being prepared, so " ++
    "applying it would revert that change. Re-read the current configuration and apply the update again")

def statusFromValidation (validation : SetupValidationSummary) : Bool := validation.status = .passed

/-! ## The writers -/

inductive SetupVerb where
  | applySetupConfig (trustFixtures : Bool) (localIrohNodeId : Option String) (request : SetupRequest)
  | updateProviderConfig (localIrohNodeId : Option String) (patch : ProviderConfigPatch)
  | refreshPasswordFlag (hasPassword : Bool)
  | adoptIrohAddress (nodeId : String)
deriving DecidableEq

def derivedWriteAttempts : Nat := 4

inductive SetupPhase where
  | load (attempts : Nat)
  | settled (stored : StoredSetup)
  | credential (stored : StoredSetup)
  | password (stored : StoredSetup)
  | normalize (stored : StoredSetup) (config : SetupConfig)
  | validate (stored : StoredSetup) (config : SetupConfig)
  | write (attempts : Nat) (stored : StoredSetup) (config : SetupConfig) (ready : Bool)
      (validation : SetupValidationSummary)

structure SetupChoice where
  dbFails : Bool := false
  secretStored : Bool := true
  validation : SetupValidationSummary := ⟨.passed, []⟩

abbrev SetupNext := SetupPhase ⊕ ServiceResult Unit

namespace SetupVerb

def start : SetupVerb → Option SetupPhase
  | .applySetupConfig trustFixtures _ request =>
    match ensureTrustFixturesAllowNetwork trustFixtures request.config.network with
    | .ok _ => some (.load 1)
    | .error _ => none
  | .updateProviderConfig .. => some (.load 1)
  | .refreshPasswordFlag _ | .adoptIrohAddress _ => some (.load derivedWriteAttempts)

def refreshed (hasPassword : Bool) (config : SetupConfig) : Option SetupConfig :=
  match config.chainObserver with
  | .esplora _ => none
  | .bitcoind _ _ storedFlag =>
    if storedFlag = hasPassword then none
    else some { config with chainObserver := config.chainObserver.setPassword hasPassword }

def adopted (nodeId : String) (config : SetupConfig) : Option SetupConfig :=
  if config.advertisedEndpoint.transport ≠ .iroh || config.advertisedEndpoint.address = nodeId then none
  else some (config.setAddress nodeId)

def derive (attempts : Nat) (stored : StoredSetup) (validation : SetupValidationSummary) :
    Option SetupConfig → SetupNext
  | none => .inr (.ok ())
  | some config => .inl (.write attempts stored config stored.ready (stored.validation.getD validation))

def loaded (attempts : Nat) (stored : StoredSetup) : SetupVerb → SetupNext
  | .applySetupConfig _ _ request =>
    match ensureGatewayIdentityUnchanged stored.config request with
    | .error e => .inr (.error e)
    | .ok _ => .inl (.settled stored)
  | .updateProviderConfig .. =>
    if stored.config.isSome then .inl (.settled stored)
    else .inr (.error (failedPrecondition "setup config is not configured"))
  | .refreshPasswordFlag hasPassword =>
    derive attempts stored ⟨.notRun, []⟩ (stored.config.bind (refreshed hasPassword))
  | .adoptIrohAddress nodeId => derive attempts stored ⟨.passed, []⟩ (stored.config.bind (adopted nodeId))

def candidatePolicy (stored : StoredSetup) : SetupVerb → Option FundingPolicyConfig
  | .applySetupConfig _ _ request => some request.config.fundingPolicy
  | .updateProviderConfig _ patch =>
    stored.config.map (fun config => (applyProviderPatch config patch).fundingPolicy)
  | _ => none

def policySettled (db : Db) (stored : StoredSetup) (verb : SetupVerb) : ServiceResult Unit :=
  match verb.candidatePolicy stored with
  | none => .ok ()
  | some candidate => db.ensureFundingPolicySettled stored.config candidate

def afterSettled (stored : StoredSetup) : SetupVerb → SetupNext
  | .updateProviderConfig _ patch =>
    match stored.config with
    | some config => .inl (.normalize stored (applyProviderPatch config patch))
    | none => .inr (.error (failedPrecondition "setup config is not configured"))
  | _ => .inl (.credential stored)

def localIrohNodeId : SetupVerb → Option String
  | .applySetupConfig _ nodeId _ | .updateProviderConfig nodeId _ => nodeId
  | _ => none

/-- Before the transport binds, the stored address is kept. -/
def normalizeAdvertisedEndpoint (current : Option SetupConfig) (config : SetupConfig) (verb : SetupVerb) :
    SetupConfig :=
  if config.advertisedEndpoint.transport ≠ .iroh then config
  else
    match verb.localIrohNodeId with
    | some nodeId => config.setAddress nodeId
    | none => config.setAddress (current.elim "" (·.advertisedEndpoint.address))

/-- A lost fence is the answer to an operator; a derived write reads again. -/
def lostFence (attempts : Nat) : SetupVerb → SetupNext
  | .applySetupConfig .. | .updateProviderConfig .. => .inr (.error setupRevisionConflict)
  | .refreshPasswordFlag _ | .adoptIrohAddress _ =>
    if attempts ≤ 1 then .inr (.error setupRevisionConflict) else .inl (.load (attempts - 1))

def write (db : Db) (attempts : Nat) (stored : StoredSetup) (config : SetupConfig) (ready : Bool)
    (validation : SetupValidationSummary) (verb : SetupVerb) : Db × SetupNext :=
  match verb.policySettled db stored with
  | .error e => (db, .inr (.error e))
  | .ok _ =>
    match db.tryUpsertSetupState stored.revision ready config validation with
    | none => (db, verb.lostFence attempts)
    | some db' => (db', .inr (.ok ()))

def resume (verb : SetupVerb) (db : Db) (x : SetupChoice) (phase : SetupPhase) : Db × SetupNext :=
  if x.dbFails then (db, .inr (.error (internalError "database")))
  else
    match phase with
    | .load attempts => (db, verb.loaded attempts db.setup)
    | .settled stored =>
      match verb.policySettled db stored with
      | .error e => (db, .inr (.error e))
      | .ok _ => (db, verb.afterSettled stored)
    | .credential stored =>
      if x.secretStored then (db, .inl (.password stored))
      else
        (db, .inr (.error (failedPrecondition ("no gateway admin credential is stored: set it with " ++
          "set_config_secret before applying setup config"))))
    | .password stored =>
      match verb with
      | .applySetupConfig _ _ request =>
        match setupConfigToView request x.secretStored with
        | .error e => (db, .inr (.error e))
        | .ok config => (db, .inl (.normalize stored config))
      | _ => (db, .inr (.ok ()))
    | .normalize stored config => (db, .inl (.validate stored (verb.normalizeAdvertisedEndpoint db.setup.config config)))
    | .validate stored config =>
      (db, .inl (.write 1 stored config (statusFromValidation x.validation) x.validation))
    | .write attempts stored config ready validation => verb.write db attempts stored config ready validation

end SetupVerb

end Manifold.Liquidity
