import Manifold.Liquidity.Credentials
import Manifold.Liquidity.Public

/-!
# The federation trust pipeline

`verification.rs` and `revocation.rs`. The clocks, the stored authorities, the preview and the relays answer from
outside.
-/

namespace Manifold.Liquidity

/-! ## Requests, configuration and outcomes -/

structure MgEndorsement where
  attestation : MgPeerAttestation
  trust : HolderAuthorizationEnvelope

structure VerificationRequest where
  inviteCode : String
  federationId : FederationId
  federationConfigHash : String
  fleetSeatHints : List FederationSeat
  network : BitcoinNetwork
  stabilityMinAmount : Sats
  mgEndorsement : Option MgEndorsement
  mgTrustMaterial : Option (List GetMgTrustMaterialResponse)

inductive VerificationRequirement where
  | allTrusted | consensusMajorityTrusted

structure AcceptedAttesterPolicy where
  attesterPubkey : Pubkey
  verificationRequirement : VerificationRequirement

structure FederationPreview where
  federationId : FederationId
  federationConfigHash : String
  network : BitcoinNetwork
  peers : List FederationSeat
  consensusThreshold : Nat
  mgSeatBindingsMetadata : Option String
  moduleKinds : List String

def FederationPreview.federationSeats (p : FederationPreview) : FederationSeats :=
  ⟨p.federationId, p.federationConfigHash, p.peers⟩

inductive FederationPreviewError where
  | invalidInviteCode (reason : String)
  | endpointPolicyRejected
  | unavailable (reason : String)

structure VerificationCheck where
  name : String
  status : ValidationStatus
  subject : Option String
  detail : Option String

structure PipelineChecks where
  seat : List VerificationCheck := []
  credential : List VerificationCheck := []
  revocation : List VerificationCheck := []

abbrev Rejection := RejectionCode × String

/-- The checks that ran stay recorded when a later one rejects. -/
abbrev Pipeline := ExceptT Rejection (StateM PipelineChecks)

structure VerificationSummary where
  federationId : FederationId
  policyResult : ValidationStatus
  checks : PipelineChecks
  acceptedAttesterPolicy : Option AcceptedAttesterPolicy
  failureReason : Option String

structure VerificationOutcome where
  summary : VerificationSummary
  rejection : Option Rejection

namespace Pipeline

def exec {α : Type} (p : Pipeline α) (checks : PipelineChecks) : Except Rejection α × PipelineChecks :=
  p.run checks

def ofExcept {ε α : Type} (reject : ε → Rejection) : Except ε α → Pipeline α
  | .ok a => pure a
  | .error error => throw (reject error)

def require (condition : Bool) (code : RejectionCode) (reason : String) : Pipeline Unit :=
  if condition then pure () else throw (code, reason)

def push (f : PipelineChecks → PipelineChecks) : Pipeline Unit := ExceptT.lift (modify f)

def pushSeat (check : VerificationCheck) : Pipeline Unit :=
  push (fun c => { c with seat := c.seat ++ [check] })

def pushCredential (name : String) (status : ValidationStatus) (subject : Pubkey) (detail : String) : Pipeline Unit :=
  push (fun c => { c with credential := c.credential ++ [⟨name, status, some subject, some detail⟩] })

def pushRevocation (checks : List VerificationCheck) : Pipeline Unit :=
  push (fun c => { c with revocation := c.revocation ++ checks })

end Pipeline

open Pipeline

/-! ## Revocation -/

structure RevocationLookup where
  relayUrl : String
  issuerPubkeyHex : Pubkey
  credentialDigests : List String

/-- A lookup at the `n`-th relay an issuer lists. -/
abbrev RevocationFetcher := Nat → RevocationLookup → Except String (List SignedRevocation)

def addToGroup (issuer : Pubkey) (digest : String) : List (Pubkey × List String) → List (Pubkey × List String)
  | [] => [(issuer, [digest])]
  | (i, digests) :: rest =>
    if i = issuer then (i, digests ++ [digest]) :: rest else (i, digests) :: addToGroup issuer digest rest

def groupByIssuer (required : List (Pubkey × String)) : List (Pubkey × List String) :=
  required.foldl (fun groups r => addToGroup r.1 r.2 groups) []

def queryRelays (fetch : RevocationFetcher) (issuer : Pubkey) (digests : List String) :
    Nat → List String → String → Except String (List SignedRevocation)
  | _, [], lastError => .error lastError
  | n, relay :: rest, _ =>
    match fetch n ⟨relay, issuer, digests⟩ with
    | .ok revocations => .ok revocations
    | .error error => queryRelays fetch issuer digests (n + 1) rest error

def addRevocations (sdk : Sdk) (issuer : Pubkey) (verifier : sdk.Context) : List SignedRevocation → sdk.Context
  | [] => verifier
  | revocation :: rest =>
    if revocation.issuerIdPubkey ≠ issuer then addRevocations sdk issuer verifier rest
    else
      match sdk.addRevocation verifier revocation with
      | .ok verifier' => addRevocations sdk issuer verifier' rest
      | .error _ => addRevocations sdk issuer verifier rest

def IssuerAuthority.relayLocations (a : IssuerAuthority) : List String :=
  (a.revocation.filter (fun l => l.protocol = "nostr")).map (·.location)

def lookupIssuer (sdk : Sdk) (fetch : RevocationFetcher) (authorities : List IssuerAuthority)
    (verifier : sdk.Context) (issuer : Pubkey) (digests : List String) : Except String sdk.Context :=
  match authorities.find? (fun a => a.issuerIdPubkey = issuer) with
  | none => .error "no trusted issuer authority is installed for this issuer"
  | some authority =>
    if authority.relayLocations.isEmpty then
      .error "issuer authority lists no supported Nostr revocation locations"
    else
      match queryRelays fetch issuer digests.eraseDups 0 authority.relayLocations "" with
      | .error lastError => .error ("every listed revocation relay failed: " ++ lastError)
      | .ok revocations => .ok (addRevocations sdk issuer verifier revocations)

def lookupIssuers (sdk : Sdk) (fetch : RevocationFetcher) (authorities : List IssuerAuthority) :
    sdk.Context → List (Pubkey × List String) → sdk.Context × List (Pubkey × String)
  | verifier, [] => (verifier, [])
  | verifier, (issuer, digests) :: rest =>
    match lookupIssuer sdk fetch authorities verifier issuer digests with
    | .ok verifier' => lookupIssuers sdk fetch authorities verifier' rest
    | .error detail =>
      let (verifier', failures) := lookupIssuers sdk fetch authorities verifier rest
      (verifier', (issuer, detail) :: failures)

structure RevocationStageResult (sdk : Sdk) where
  verifier : sdk.Context
  checks : List VerificationCheck
  unavailable : Bool

def runRevocationStage (sdk : Sdk) (fetch : RevocationFetcher) (verifier : sdk.Context)
    (authorities : List IssuerAuthority) (required : List (Pubkey × String)) : RevocationStageResult sdk :=
  let (verifier', failures) := lookupIssuers sdk fetch authorities verifier (groupByIssuer required)
  { verifier := verifier'
    checks := required.map (fun r =>
      match failures.lookup r.1 with
      | some detail => ⟨"revocation_freshness", .failed, some r.1, some detail⟩
      | none =>
        ⟨"revocation_freshness", .passed, some r.1, some ("fresh revocation lookup completed for digest " ++ r.2)⟩)
    unavailable := !failures.isEmpty }

/-! ## The pipeline -/

structure Verifier where
  sdk : Sdk
  codec : Codec
  minimumTrustLevel : Nat

/-- What the outside answers during one verification; the gate and the pipeline ask on their own. -/
structure VerificationAnswers where
  now : Timestamp
  gateNow : Timestamp
  gateNowAgain : Timestamp
  gateAuthorities : Except String (List IssuerAuthority)
  authorities : Except String (List IssuerAuthority)
  trySpend : FederationId → Bool
  gateFetch : RevocationFetcher
  fetch : RevocationFetcher
  preview : Except FederationPreviewError FederationPreview

section

variable (v : Verifier) (x : VerificationAnswers)

def authoritiesUnavailable (error : String) : Rejection :=
  (.providerUnavailable, "trusted issuer authorities are unavailable: " ++ error)

def addAuthorities (verifier : v.sdk.Context) : List IssuerAuthority → Except String v.sdk.Context
  | [] => .ok verifier
  | authority :: rest =>
    match v.sdk.addIssuerAuthority verifier authority with
    | .error error => .error error
    | .ok verifier' => addAuthorities verifier' rest

def loadAuthorities (authorities : List IssuerAuthority) : Pipeline v.sdk.Context :=
  ofExcept (fun error => (.providerUnavailable, "trusted issuer authority failed to load: " ++ error))
    (addAuthorities v v.sdk.new authorities)

def verifyEndorsementBadge (verifier : v.sdk.Context) (endorsement : MgEndorsement)
    (statement : MgPeerAttestationStatement) (now : Timestamp) : Pipeline TrustScoreBadge :=
  ofExcept (fun error => (.invalidCredentials, "MG endorsement badge failed verification: " ++ error))
    (verifyMgPeerBadge v.sdk v.minimumTrustLevel verifier endorsement.trust statement.mgPubkey now)

def verifyEndorsementStatement (request : VerificationRequest) (endorsement : MgEndorsement) :
    Pipeline (MgPeerAttestationStatement × FederationId) := do
  let statement ← ofExcept
    (fun error => (.invalidCredentials,
      "MG endorsement attestation failed verification: " ++ attestationErrorText error))
    (endorsement.attestation.verify v.codec)
  let federationId ← ofExcept (fun error => (.invalidDetailsPayload, "invite code is malformed: " ++ error))
    (v.codec.inviteFederation request.inviteCode)
  require (statement.federationId = federationId) .invalidSeatBinding
    "MG endorsement is for a different federation than the invite code"
  return (statement, federationId)

def runAdmissionGate (request : VerificationRequest) : Pipeline FederationId := do
  match request.mgEndorsement with
  | none => throw (.invalidCredentials, "request carries no MG endorsement")
  | some endorsement =>
    let (statement, federationId) ← verifyEndorsementStatement v request endorsement
    let authorities ← ofExcept authoritiesUnavailable x.gateAuthorities
    let issuer := endorsement.trust.signedCredential.issuerIdPubkey
    require (authorities.any (fun a => a.issuerIdPubkey = issuer)) .invalidCredentials
      ("MG endorsement badge issuer " ++ issuer ++ " is not trusted here")
    let verifier ← loadAuthorities v authorities
    -- the cryptography comes before the lookup, so that a forgery costs no round trip
    let _ ← verifyEndorsementBadge v verifier endorsement statement x.gateNow
    require (x.trySpend federationId) .providerUnavailable
      "verification allowance for this federation is spent; retry later"
    let stage := runRevocationStage v.sdk x.gateFetch verifier authorities
      [(issuer, endorsement.trust.holderAuthorization.credentialDigest)]
    pushRevocation stage.checks
    require (!stage.unavailable) .providerUnavailable
      "the MG endorsement's revocation lookup could not complete freshly"
    let badge ← verifyEndorsementBadge v stage.verifier endorsement statement x.gateNowAgain
    pushCredential "fman_endorsement" .passed statement.mgPubkey
      ("endorsement for peer " ++ statement.peerId ++ " verified against issuer " ++ issuer ++
        " with trust level " ++ toString badge.trustLevel)
    return federationId

def previewErrorRejection : FederationPreviewError → Rejection
  | .invalidInviteCode reason => (.invalidDetailsPayload, "invite code preview failed: " ++ reason)
  | .endpointPolicyRejected => (.invalidDetailsPayload, "invite endpoint rejected by transport policy")
  | .unavailable _ => (.providerUnavailable, "federation preview is unavailable")

def stabilityPoolModuleKind : String := "multi_sig_stability_pool"

/-- Steps 1 to 2a: the preview, and that the request does not contradict it. -/
def previewFederation (request : VerificationRequest) (admitted : FederationId) : Pipeline FederationPreview := do
  let preview ← ofExcept previewErrorRejection x.preview
  require (preview.federationId = admitted && request.federationId = preview.federationId &&
      request.federationConfigHash = preview.federationConfigHash && request.network = preview.network)
    .invalidDetailsPayload "request federation details do not match the invite-code preview"
  require (request.fleetSeatHints.all preview.peers.contains)
    .invalidDetailsPayload "fleet seat hint does not match the invite-code preview"
  require (request.stabilityMinAmount = 0 || preview.moduleKinds.contains stabilityPoolModuleKind)
    .unsupportedSourceType "target federation's configuration has no stability-pool module"
  return preview

def recordBindings : List VerifiedSeatBinding → Pipeline Unit
  | [] => pure ()
  | binding :: rest => do
      pushSeat ⟨"seat_binding", .passed, some binding.mgPubkey,
        some ("peer " ++ binding.peerId ++ " is bound to this MG identity")⟩
      recordBindings rest

/-- Step 3: the directory of the consensus metadata, matched to the previewed config. -/
def readSeatBindings (preview : FederationPreview) : Pipeline (List VerifiedSeatBinding) := do
  match preview.mgSeatBindingsMetadata with
  | none => throw (.invalidSeatBinding, "fedi:fman_seat_bindings consensus metadata is missing")
  | some value =>
    let bindings ← ofExcept
      (fun error => (.invalidSeatBinding, "fedi:fman_seat_bindings consensus metadata is invalid: " ++ error.text))
      (MgSeatBindings.parseCanonical v.codec value)
    let verified ← ofExcept
      (fun error => (.invalidSeatBinding, "MG seat bindings do not match the previewed config: " ++ error.text))
      (bindings.verifyForFederation v.codec preview.federationSeats)
    recordBindings verified
    return verified

def operatorsOf (verified : List VerifiedSeatBinding) : List Pubkey :=
  ((verified.map (·.mgPubkey)).dedup).insertionSort (· ≤ ·)

def repeatedIdentity (operators : List Pubkey) : List Pubkey → List GetMgTrustMaterialResponse → Option Pubkey
  | _, [] => none
  | seen, response :: rest =>
    let mg := response.material.mgPubkey
    if operators.contains mg then
      if seen.contains mg then some mg else repeatedIdentity operators (mg :: seen) rest
    else repeatedIdentity operators seen rest

structure ResolvedTrustMaterial where
  mgPubkey : Pubkey
  holderAuthorizations : List HolderAuthorizationEnvelope

def responseFor (material : List GetMgTrustMaterialResponse) (mg : Pubkey) : Option GetMgTrustMaterialResponse :=
  material.find? (fun r => r.material.mgPubkey = mg)

def resolveIdentities (material : List GetMgTrustMaterialResponse) : List Pubkey → Pipeline (List ResolvedTrustMaterial)
  | [] => pure []
  | mg :: rest =>
    match responseFor material mg with
    | none => do
        pushCredential "fman_trust_material" .failed mg
          "request carries no trust material for this MG identity"
        resolveIdentities material rest
    | some response => do
        let verified ← ofExcept
          (fun error => (.invalidCredentials, "MG trust material failed verification: " ++ error.text))
          (response.verifyForMgAge v.codec mg x.now mgTrustMaterialMaxAgeSecs)
        pushCredential "fman_trust_material" .passed mg
          "signed trust material verified for the consensus-listed MG identity"
        let resolved ← resolveIdentities material rest
        return ⟨mg, verified.holderAuthorizations⟩ :: resolved

def repeatedEntry (mg : Pubkey) : Rejection :=
  (.invalidCredentials, "request carries more than one trust material entry for " ++ mg)

def resolveTrustMaterial (request : VerificationRequest) (operators : List Pubkey) :
    Pipeline (List ResolvedTrustMaterial) := do
  match request.mgTrustMaterial with
  | none => throw (.invalidCredentials, "request carries no MG trust material")
  | some material =>
    match repeatedIdentity operators [] material with
    | some mg => throw (repeatedEntry mg)
    | none => resolveIdentities v x material operators

structure Candidate where
  mgPubkey : Pubkey
  envelope : HolderAuthorizationEnvelope

def Candidate.issuer (c : Candidate) : Pubkey := c.envelope.signedCredential.issuerIdPubkey

def Candidate.digest (c : Candidate) : String := c.envelope.holderAuthorization.credentialDigest

def selectCandidates (accepted installed : List Pubkey) : List Candidate → Pipeline (List Candidate)
  | [] => pure []
  | c :: rest =>
    if !accepted.contains c.issuer then do
      pushCredential "issuer_credential_policy" .notRun c.mgPubkey
        ("issuer " ++ c.issuer ++ " is not an accepted attester; ignored")
      selectCandidates accepted installed rest
    else if !installed.contains c.issuer then do
      pushCredential "issuer_credential_policy" .failed c.mgPubkey
        ("no trusted issuer authority is installed for " ++ c.issuer)
      selectCandidates accepted installed rest
    else do
      let candidates ← selectCandidates accepted installed rest
      return c :: candidates

/-- The badges of the candidates: the issuer and the identity of each. The first that fails rejects. -/
def verifyCandidates (verifier : v.sdk.Context) : List Candidate → Pipeline (List (Pubkey × Pubkey))
  | [] => pure []
  | c :: rest =>
    match verifyMgPeerBadge v.sdk v.minimumTrustLevel verifier c.envelope c.mgPubkey x.now with
    | .error error => do
        pushCredential "issuer_credential_policy" .failed c.mgPubkey
          ("trust badge " ++ c.digest ++ " failed verification: " ++ error)
        throw (.invalidCredentials, "fetched MG credential failed verification: " ++ error)
    | .ok badge => do
        pushCredential "issuer_credential_policy" .passed c.mgPubkey
          ("trust badge from " ++ c.issuer ++ " verified with trust level " ++ toString badge.trustLevel)
        let trusted ← verifyCandidates verifier rest
        return (c.issuer, c.mgPubkey) :: trusted

def VerificationRequirement.satisfied (trusted operators consensusThreshold : Nat) : VerificationRequirement → Bool
  | .allTrusted => trusted = operators
  | .consensusMajorityTrusted => consensusThreshold ≤ trusted

def evaluatePolicies (policies : List AcceptedAttesterPolicy) (preview : FederationPreview)
    (operators : List Pubkey) (trusted : List (Pubkey × Pubkey)) : Pipeline AcceptedAttesterPolicy :=
  let pooled := trusted.map (·.2)
  let trustedOperators := (operators.filter pooled.contains).length
  match policies.find? (fun p => p.verificationRequirement.satisfied trustedOperators operators.length
      preview.consensusThreshold) with
  | some policy => pure policy
  | none => throw (.policyMismatch, "no accepted attester policy is satisfied by the distinct trusted MG identities")

def candidatesOf (advertisements : List ResolvedTrustMaterial) : List Candidate :=
  advertisements.flatMap (fun a => a.holderAuthorizations.map (fun e => ⟨a.mgPubkey, e⟩))

/-- Steps 6 and 7: the badges with a fresh lookup, then the policies. -/
def evaluateTrust (policies : List AcceptedAttesterPolicy) (preview : FederationPreview)
    (operators : List Pubkey) (advertisements : List ResolvedTrustMaterial) :
    Pipeline AcceptedAttesterPolicy := do
  let authorities ← ofExcept authoritiesUnavailable x.authorities
  let candidates ← selectCandidates (policies.map (·.attesterPubkey)) (authorities.map (·.issuerIdPubkey))
    (candidatesOf advertisements)
  let verifier ← loadAuthorities v authorities
  let stage := runRevocationStage v.sdk x.fetch verifier authorities
    (candidates.map (fun c => (c.issuer, c.digest))).eraseDups
  pushRevocation stage.checks
  require (!stage.unavailable) .providerUnavailable
    "a required issuer revocation lookup could not complete freshly"
  let trusted ← verifyCandidates v x stage.verifier candidates
  evaluatePolicies policies preview operators trusted

def runPipeline (policies : List AcceptedAttesterPolicy) (request : VerificationRequest) :
    Pipeline AcceptedAttesterPolicy := do
  let admitted ← runAdmissionGate v x request
  let preview ← previewFederation x request admitted
  let verified ← readSeatBindings v preview
  let operators := operatorsOf verified
  let advertisements ← resolveTrustMaterial v x request operators
  evaluateTrust v x policies preview operators advertisements

def outcomeOf (request : VerificationRequest) :
    Except Rejection AcceptedAttesterPolicy × PipelineChecks → VerificationOutcome
  | (.ok policy, checks) =>
    { summary := ⟨request.federationId, .passed, checks, some policy, none⟩
      rejection := none }
  | (.error (code, reason), checks) =>
    { summary := ⟨request.federationId, .failed, checks, none, some reason⟩
      rejection := some (code, reason) }

def verify (policies : List AcceptedAttesterPolicy) (request : VerificationRequest) : VerificationOutcome :=
  outcomeOf request ((runPipeline v x policies request).exec {})

end

end Manifold.Liquidity
