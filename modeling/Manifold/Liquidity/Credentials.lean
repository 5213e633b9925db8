import Mathlib.Data.List.Dedup
import Mathlib.Data.List.Sort
import Manifold.Liquidity.Records

/-!
# Badges, seat bindings and trust material

The credential SDK, the Schnorr signatures and the JSON codecs are given from outside.
-/

namespace Manifold.Liquidity

/-! ## The signed objects -/

/-- `document` stands for what only the SDK reads, here and below. -/
structure SignedCredential where
  issuerIdPubkey : Pubkey
  document : String
deriving DecidableEq

structure HolderAuthorization where
  credentialDigest : String
  subjectPubkey : Pubkey
  document : String
deriving DecidableEq

structure HolderAuthorizationEnvelope where
  holderAuthorization : HolderAuthorization
  signedCredential : SignedCredential
deriving DecidableEq

structure RevocationLocation where
  protocol : String
  location : String

structure IssuerAuthority where
  issuerIdPubkey : Pubkey
  revocation : List RevocationLocation
  document : String

structure SignedRevocation where
  issuerIdPubkey : Pubkey
  credentialDigest : String
  document : String

structure TrustScoreBadge where
  trustLevel : Nat

inductive AccountType where
  | seeker | provider | btcDepositor
deriving DecidableEq

structure Account where
  id : String
  accType : AccountType
  single : Bool

structure MgPeerAttestationStatement where
  mgPubkey : Pubkey
  federationId : FederationId
  federationConfigHash : String
  peerId : String
  guardianIdentity : String
  guardianFeeAccount : Account
  issuedAt : Timestamp

structure MgPeerAttestation where
  attestation : MgPeerAttestationStatement
  signature : String

structure MgTrustMaterial where
  mgPubkey : Pubkey
  issuedAt : Timestamp
  publicApiUrls : List String
  holderAuthorizations : List HolderAuthorizationEnvelope
deriving DecidableEq

structure GetMgTrustMaterialResponse where
  material : MgTrustMaterial
  signature : String
deriving DecidableEq

/-- `VerificationContext` of the credential SDK. A failed `add_` leaves it as it was. -/
structure Sdk where
  Context : Type
  new : Context
  addIssuerAuthority : Context → IssuerAuthority → Except String Context
  addRevocation : Context → SignedRevocation → Except String Context
  verifyCredentialAuthorizationAtTime :
    Context → SignedCredential → HolderAuthorization → Timestamp → Except String Unit
  parseTrustScoreBadgeV1 : SignedCredential → Except String TrustScoreBadge

structure Sdk.Lawful (sdk : Sdk) : Prop where
  /-- A credential that an accepted revocation names does not verify. -/
  revokes : ∀ {c c' r cred auth now}, sdk.addRevocation c r = .ok c' →
    sdk.verifyCredentialAuthorizationAtTime c' cred auth now = .ok () →
    cred.issuerIdPubkey = r.issuerIdPubkey → auth.credentialDigest ≠ r.credentialDigest
  antitone : ∀ {c c' r cred auth now}, sdk.addRevocation c r = .ok c' →
    sdk.verifyCredentialAuthorizationAtTime c' cred auth now = .ok () →
    sdk.verifyCredentialAuthorizationAtTime c cred auth now = .ok ()
  /-- Whether a revocation is accepted does not depend on the revocations before it. -/
  independent : ∀ {c c' r e}, sdk.addRevocation c r = .ok c' →
    (sdk.addRevocation c' e).isOk = (sdk.addRevocation c e).isOk

structure Codec where
  /-- `nostr::PublicKey::parse`, printed again. -/
  parsePubkey : String → Option String
  xonly : String → Bool
  verifySchnorr : (signature digest pubkey : String) → Bool
  attestationDigest : MgPeerAttestationStatement → Option String
  materialDigest : MgTrustMaterial → Option String
  /-- The length of the canonical JSON of a response. -/
  responseBytes : GetMgTrustMaterialResponse → Option Nat
  apiUrlsBytes : List String → Option Nat
  parsePeerId : String → Option Nat
  /-- `serde_json::from_str::<RawMgSeatBindings>`. -/
  parseSeatBindings : String → Option (List MgPeerAttestation)
  seatBindingsString : List MgPeerAttestation → Option String
  inviteFederation : String → Except String FederationId

/-! ## Signatures -/

inductive SignatureError where
  | invalidMgPubkey | canonicalizationFailed | invalidSignature

/-- The signature of the holder of `pubkey`, which has to be in its canonical spelling. -/
def Codec.verifySignedBy (codec : Codec) (pubkey : Pubkey) (digest : Option String) (signature : String) :
    Except SignatureError Unit :=
  match codec.parsePubkey pubkey with
  | none => .error .invalidMgPubkey
  | some canonical =>
    if pubkey ≠ canonical then .error .invalidMgPubkey
    else if !codec.xonly canonical then .error .invalidMgPubkey
    else
      match digest with
      | none => .error .canonicalizationFailed
      | some digest =>
        if codec.verifySchnorr signature digest canonical then .ok () else .error .invalidSignature

def attestationErrorText : SignatureError → String
  | .invalidMgPubkey => "invalid MG pubkey"
  | .canonicalizationFailed => "attestation canonicalization failed"
  | .invalidSignature => "invalid MG peer attestation signature"

def MgPeerAttestation.verify (codec : Codec) (a : MgPeerAttestation) :
    Except SignatureError MgPeerAttestationStatement := do
  codec.verifySignedBy a.attestation.mgPubkey (codec.attestationDigest a.attestation) a.signature
  return a.attestation

/-! ## Badges -/

def requireTrustLevel (minimum : Nat) (badge : TrustScoreBadge) : Except String Unit :=
  if badge.trustLevel < minimum then
    .error s!"PeerBadge trust level {badge.trustLevel} is below required minimum {minimum}"
  else .ok ()

def verifyHolderTrustEnvelope (sdk : Sdk) (verifier : sdk.Context) (envelope : HolderAuthorizationEnvelope)
    (expectedSubject : Pubkey) (now : Timestamp) : Except String TrustScoreBadge :=
  match sdk.verifyCredentialAuthorizationAtTime verifier envelope.signedCredential
      envelope.holderAuthorization now with
  | .error error => .error ("credential verification failed: " ++ error)
  | .ok _ =>
    if envelope.holderAuthorization.subjectPubkey ≠ expectedSubject then
      .error "holder authorization subject does not match the expected pubkey"
    else
      match sdk.parseTrustScoreBadgeV1 envelope.signedCredential with
      | .error error => .error ("trust badge schema check failed: " ++ error)
      | .ok badge => .ok badge

def verifyMgPeerBadge (sdk : Sdk) (minimum : Nat) (verifier : sdk.Context)
    (envelope : HolderAuthorizationEnvelope) (expectedSubject : Pubkey) (now : Timestamp) :
    Except String TrustScoreBadge := do
  let badge ← verifyHolderTrustEnvelope sdk verifier envelope expectedSubject now
  requireTrustLevel minimum badge
  return badge

/-! ## The directory of seat bindings -/

inductive MgSeatBindingsError where
  | empty | tooManySeatBindings | valueTooLarge | malformedJson | nonCanonical | canonicalizationFailed
  | nonCanonicalPeerId | duplicatePeerId (peer : String) | invalidSeatBindingSignature
  | federationMismatch (peer : String) | configHashMismatch (peer : String) | unknownPeerId (peer : String)
  | guardianIdentityMismatch (peer : String) | invalidGuardianFeeAccount (peer : String)
  | duplicateGuardianFeeAccount (peer : String) | unboundPeerId (peer : String)

def MgSeatBindingsError.text : MgSeatBindingsError → String
  | .empty => "MG seat bindings value is empty"
  | .tooManySeatBindings => "MG seat bindings value has too many bindings"
  | .valueTooLarge => "MG seat bindings value is too large"
  | .malformedJson => "MG seat bindings JSON is malformed"
  | .nonCanonical => "MG seat bindings value is not canonical"
  | .canonicalizationFailed => "MG seat bindings canonicalization failed"
  | .nonCanonicalPeerId => "MG seat binding peer id is not canonical"
  | .duplicatePeerId peer => "duplicate MG seat binding for peer " ++ peer
  | .invalidSeatBindingSignature => "invalid MG seat binding signature"
  | .federationMismatch peer => "MG seat binding for peer " ++ peer ++ " names another federation"
  | .configHashMismatch peer => "MG seat binding for peer " ++ peer ++ " names another federation config"
  | .unknownPeerId peer => "MG seat binding names peer " ++ peer ++ ", which is not a guardian seat"
  | .guardianIdentityMismatch peer => "MG seat binding for peer " ++ peer ++ " names another guardian identity"
  | .invalidGuardianFeeAccount peer =>
    "MG seat binding for peer " ++ peer ++ " has an invalid guardian-fee account"
  | .duplicateGuardianFeeAccount peer => "MG seat binding for peer " ++ peer ++ " repeats a guardian-fee account"
  | .unboundPeerId peer => "guardian seat " ++ peer ++ " has no MG seat binding"

def mgSeatBindingsMaxCount : Nat := 64

def mgSeatBindingsMaxValueBytes : Nat := 65536

def Codec.parseProtocolPeerId (codec : Codec) (value : String) : Option Nat :=
  (codec.parsePeerId value).bind (fun n => if toString n = value then some n else none)

def Codec.keyBindings (codec : Codec) :
    List MgPeerAttestation → Except MgSeatBindingsError (List (Nat × MgPeerAttestation))
  | [] => .ok []
  | binding :: rest =>
    match codec.parseProtocolPeerId binding.attestation.peerId with
    | none => .error .nonCanonicalPeerId
    | some peer => do
        let keyed ← codec.keyBindings rest
        return (peer, binding) :: keyed

def repeatedPeer : List (Nat × MgPeerAttestation) → Option String
  | [] => none
  | [_] => none
  | a :: b :: rest => if a.1 = b.1 then some a.2.attestation.peerId else repeatedPeer (b :: rest)

structure MgSeatBindings where
  seatBindings : List MgPeerAttestation

def MgSeatBindings.new (codec : Codec) (seatBindings : List MgPeerAttestation) :
    Except MgSeatBindingsError MgSeatBindings :=
  if seatBindings.isEmpty then .error .empty
  else if mgSeatBindingsMaxCount < seatBindings.length then .error .tooManySeatBindings
  else do
    let keyed ← codec.keyBindings seatBindings
    let keyed := keyed.insertionSort (fun a b => a.1 ≤ b.1)
    match repeatedPeer keyed with
    | some peer => .error (.duplicatePeerId peer)
    | none =>
      match codec.seatBindingsString (keyed.map (·.2)) with
      | none => .error .canonicalizationFailed
      | some value =>
        if mgSeatBindingsMaxValueBytes < value.utf8ByteSize then .error .valueTooLarge
        else .ok ⟨keyed.map (·.2)⟩

def MgSeatBindings.parseCanonical (codec : Codec) (value : String) : Except MgSeatBindingsError MgSeatBindings :=
  if mgSeatBindingsMaxValueBytes < value.utf8ByteSize then .error .valueTooLarge
  else
    match codec.parseSeatBindings value with
    | none => .error .malformedJson
    | some raw => do
        let normalized ← MgSeatBindings.new codec raw
        match codec.seatBindingsString normalized.seatBindings with
        | none => .error .canonicalizationFailed
        | some text => if text ≠ value then .error .nonCanonical else .ok normalized

structure FederationSeat where
  peerId : String
  guardianIdentity : String
deriving DecidableEq

structure FederationSeats where
  federationId : FederationId
  federationConfigHash : String
  seats : List FederationSeat

def FederationSeats.seat (f : FederationSeats) (peerId : String) : Option FederationSeat :=
  f.seats.find? (fun seat => seat.peerId = peerId)

structure VerifiedSeatBinding where
  attestation : MgPeerAttestation
  peerId : String
  guardianIdentity : String
  mgPubkey : Pubkey
  guardianFeeAccount : Account

def MgPeerAttestation.verifySeat (codec : Codec) (federation : FederationSeats) (accounts : List String)
    (binding : MgPeerAttestation) : Except MgSeatBindingsError VerifiedSeatBinding :=
  match binding.verify codec with
  | .error _ => .error .invalidSeatBindingSignature
  | .ok statement =>
    if statement.federationId ≠ federation.federationId then .error (.federationMismatch statement.peerId)
    else if statement.federationConfigHash ≠ federation.federationConfigHash then
      .error (.configHashMismatch statement.peerId)
    else
      match federation.seat statement.peerId with
      | none => .error (.unknownPeerId statement.peerId)
      | some seat =>
        if statement.guardianIdentity ≠ seat.guardianIdentity then
          .error (.guardianIdentityMismatch statement.peerId)
        else if statement.guardianFeeAccount.accType ≠ .btcDepositor || !statement.guardianFeeAccount.single then
          .error (.invalidGuardianFeeAccount statement.peerId)
        else if accounts.contains statement.guardianFeeAccount.id then
          .error (.duplicateGuardianFeeAccount statement.peerId)
        else
          .ok
            { attestation := binding
              peerId := statement.peerId
              guardianIdentity := statement.guardianIdentity
              mgPubkey := statement.mgPubkey
              guardianFeeAccount := statement.guardianFeeAccount }

/-- `accounts` are the fee accounts of the bindings before. -/
def verifySeats (codec : Codec) (federation : FederationSeats) :
    List String → List MgPeerAttestation → Except MgSeatBindingsError (List VerifiedSeatBinding)
  | _, [] => .ok []
  | accounts, binding :: rest => do
      let verified ← binding.verifySeat codec federation accounts
      let others ← verifySeats codec federation (verified.guardianFeeAccount.id :: accounts) rest
      return verified :: others

def MgSeatBindings.verifyForFederation (codec : Codec) (bindings : MgSeatBindings)
    (federation : FederationSeats) : Except MgSeatBindingsError (List VerifiedSeatBinding) := do
  let verified ← verifySeats codec federation [] bindings.seatBindings
  match federation.seats.find? (fun seat => !(verified.map (·.peerId)).contains seat.peerId) with
  | some missing => .error (.unboundPeerId missing.peerId)
  | none => .ok verified

/-! ## Trust material -/

inductive MgApiUrlsError where
  | empty | tooManyUrls | valueTooLarge | nonCanonical | canonicalizationFailed | emptyUrl | urlTooLong
  | urlContainsControlCharacter | unsupportedUrlScheme | missingEndpoint

def MgApiUrlsError.text : MgApiUrlsError → String
  | .empty => "MG API URL metadata is empty"
  | .tooManyUrls => "MG API URL metadata has too many URLs"
  | .valueTooLarge => "MG API URL metadata value is too large"
  | .nonCanonical => "MG API URL metadata is not canonical"
  | .canonicalizationFailed => "MG API URL metadata canonicalization failed"
  | .emptyUrl => "MG API URL is empty"
  | .urlTooLong => "MG API URL is too long"
  | .urlContainsControlCharacter => "MG API URL contains a control character"
  | .unsupportedUrlScheme => "MG API URL scheme is unsupported"
  | .missingEndpoint => "MG API URL is missing endpoint material"

inductive MgTrustMaterialError where
  | signature (error : SignatureError)
  | canonicalizationFailed | unexpectedMg | responseTooLarge | tooManyPublicApiUrls | tooManyHolderAuthorizations
  | issuedInFuture | expired
  | invalidPublicApiUrls (error : MgApiUrlsError)
  | holderAuthorizationSubjectMismatch

def MgTrustMaterialError.text : MgTrustMaterialError → String
  | .signature .invalidMgPubkey => "invalid MG pubkey"
  | .signature .canonicalizationFailed => "MG trust material canonicalization failed"
  | .signature .invalidSignature => "invalid MG trust material signature"
  | .canonicalizationFailed => "MG trust material canonicalization failed"
  | .unexpectedMg => "MG trust material identity mismatch"
  | .responseTooLarge => "MG trust material response is too large"
  | .tooManyPublicApiUrls => "MG trust material response has too many public API URLs"
  | .tooManyHolderAuthorizations => "MG trust material response has too many holder authorizations"
  | .issuedInFuture => "MG trust material was issued in the future"
  | .expired => "MG trust material has expired"
  | .invalidPublicApiUrls error => "invalid public MG API URLs: " ++ error.text
  | .holderAuthorizationSubjectMismatch => "holder authorization subject does not match MG pubkey"

def mgTrustMaterialMaxResponseBytes : Nat := 131072

def mgTrustMaterialMaxHolderAuthorizations : Nat := 64

def mgTrustMaterialMaxFutureSkewSecs : Nat := 3600

def mgTrustMaterialMaxAgeSecs : Nat := 7 * 24 * 60 * 60

def mgApiUrlsMaxCount : Nat := 64

def mgApiUrlsMaxValueBytes : Nat := 8192

def mgApiUrlMaxBytes : Nat := 512

def isControl (c : Char) : Bool := c.toNat < 32 || (127 ≤ c.toNat && c.toNat < 160)

def validateMgApiUrl (url : String) : Except MgApiUrlsError Unit :=
  if url.isEmpty then .error .emptyUrl
  else if mgApiUrlMaxBytes < url.utf8ByteSize then .error .urlTooLong
  else if url.toList.any isControl then .error .urlContainsControlCharacter
  else if !"iroh://".toList.isPrefixOf url.toList then .error .unsupportedUrlScheme
  else if url.toList.length = "iroh://".toList.length then .error .missingEndpoint
  else .ok ()

def sortedUrls (urls : List String) : List String := (urls.insertionSort (· ≤ ·)).dedup

/-- `MgApiUrlsMetadata::new`, whose value the trust material does not read. -/
def checkApiUrls (codec : Codec) (urls : List String) : Except MgApiUrlsError Unit := do
  urls.forM validateMgApiUrl
  if (sortedUrls urls).isEmpty then .error .empty
  else if mgApiUrlsMaxCount < (sortedUrls urls).length then .error .tooManyUrls
  else
    match codec.apiUrlsBytes (sortedUrls urls) with
    | none => .error .canonicalizationFailed
    | some bytes => if mgApiUrlsMaxValueBytes < bytes then .error .valueTooLarge else .ok ()

def validateCanonicalUrlOrder (urls : List String) : Except MgApiUrlsError Unit :=
  if sortedUrls urls ≠ urls then .error .nonCanonical else .ok ()

namespace GetMgTrustMaterialResponse

variable (codec : Codec) (r : GetMgTrustMaterialResponse)

def validateBounds : Except MgTrustMaterialError Unit :=
  match codec.responseBytes r with
  | none => .error .canonicalizationFailed
  | some bytes =>
    if mgTrustMaterialMaxResponseBytes < bytes then .error .responseTooLarge
    else if mgApiUrlsMaxCount < r.material.publicApiUrls.length then .error .tooManyPublicApiUrls
    else if mgTrustMaterialMaxHolderAuthorizations < r.material.holderAuthorizations.length then
      .error .tooManyHolderAuthorizations
    else .ok ()

def verifyEnvelopeSignature : Except MgTrustMaterialError MgTrustMaterial :=
  match codec.verifySignedBy r.material.mgPubkey (codec.materialDigest r.material) r.signature with
  | .error error => .error (.signature error)
  | .ok _ => .ok r.material

def validateHolderAuthorizationSubjects (material : MgTrustMaterial) : Except MgTrustMaterialError Unit :=
  if material.holderAuthorizations.any (fun e => e.holderAuthorization.subjectPubkey ≠ material.mgPubkey) then
    .error .holderAuthorizationSubjectMismatch
  else .ok ()

def verifyForMgAge (expectedMg : Pubkey) (now : Timestamp) (maxAgeSecs : Nat) :
    Except MgTrustMaterialError MgTrustMaterial := do
  r.validateBounds codec
  if r.material.mgPubkey ≠ expectedMg then .error .unexpectedMg
  else if now + mgTrustMaterialMaxFutureSkewSecs < r.material.issuedAt then .error .issuedInFuture
  else if maxAgeSecs < now - r.material.issuedAt then .error .expired
  else do
    (checkApiUrls codec r.material.publicApiUrls).mapError .invalidPublicApiUrls
    (validateCanonicalUrlOrder r.material.publicApiUrls).mapError .invalidPublicApiUrls
    let material ← r.verifyEnvelopeSignature codec
    validateHolderAuthorizationSubjects material
    return material

end GetMgTrustMaterialResponse

end Manifold.Liquidity
