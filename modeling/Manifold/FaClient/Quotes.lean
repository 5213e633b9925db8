import Manifold.Guardian.Facts

/-!
# Quotes as the client of a guardian reads them

`locked_payment.rs`. Signatures, hashes and decoding are parameters.
-/

namespace Manifold.FaClient

open Guardian (QuoteId FaId FederationId Plan)

abbrev ServicePubkey := String
abbrev PublicKey := String
abbrev FormationId := String
abbrev FederationSize := Nat

/-! ## Versions -/

structure FedimintdVersionCore where
  major : Nat
  minor : Nat
  patch : Nat
deriving DecidableEq

def FedimintdVersionCore.lt (a b : FedimintdVersionCore) : Bool :=
  a.major < b.major ||
    (a.major == b.major && (a.minor < b.minor || (a.minor == b.minor && a.patch < b.patch)))

structure FedimintdVersion where
  core : FedimintdVersionCore
  pre : String := ""
  build : String := ""
deriving DecidableEq

structure FedimintdDkgVersion where
  major : Nat
  minor : Nat
  vendor : Option String
deriving DecidableEq

def FedimintdVersion.dkgVersion (v : FedimintdVersion) : FedimintdDkgVersion where
  major := v.core.major
  minor := v.core.minor
  vendor := if v.build.isEmpty then none else some v.build

structure FedimintdVersionRange where
  minimum : FedimintdVersionCore
  maximumExclusive : FedimintdVersionCore
deriving DecidableEq

def FedimintdVersionRange.contains (r : FedimintdVersionRange) (v : FedimintdVersion) : Bool :=
  !v.core.lt r.minimum && v.core.lt r.maximumExclusive

inductive PlanPreference where
  | infiniteBestEffort
deriving DecidableEq

def PlanPreference.matches : PlanPreference → Plan → Bool
  | .infiniteBestEffort, .infiniteBestEffort _ => true
  | .infiniteBestEffort, .subscriptionBased _ _ _ => false

structure ResolvedFormationIntent where
  federationName : String
  federationSize : FederationSize
  plan : PlanPreference
  fedimintdVersions : FedimintdVersionRange
  fedimintdDkgVersion : FedimintdDkgVersion
  maxTotalMsats : Option UInt64
deriving DecidableEq

/-! ## Terms -/

inductive MintGeneration where
  | mintV1
  | mintV2
deriving DecidableEq

structure LockedIssuanceRequest where
  amountMsats : UInt64
  blindNonce : List UInt8
  tweak : List UInt8 := []
deriving DecidableEq

structure RefundIssuance where
  generation : MintGeneration
  refundNonce : BitVec 256
  issuance : List LockedIssuanceRequest
deriving DecidableEq

structure PaymentTerms where
  generation : MintGeneration
  federationId : FederationId
  issuance : List LockedIssuanceRequest
deriving DecidableEq

def checkedAdd (a b : UInt64) : Option UInt64 :=
  if a.toNat + b.toNat < 2 ^ 64 then some (a + b) else none

def PaymentTerms.totalMsats (t : PaymentTerms) : Option UInt64 :=
  t.issuance.foldlM (fun sum output => checkedAdd sum output.amountMsats) 0

structure GetQuoteRequest where
  faId : FaId
  fedimintdVersion : FedimintdVersion
  federationSize : FederationSize
  plan : Plan
  paymentFederationId : Option FederationId
  refundIssuance : Option RefundIssuance
deriving DecidableEq

structure QuoteTerms where
  quoteNonce : BitVec 256
  offerEpoch : Guardian.OfferEpoch
  request : GetQuoteRequest
  priceMsats : UInt64
  payment : Option PaymentTerms
deriving DecidableEq

inductive QuoteTermsError where
  | paymentMismatch
  | priceIssuanceMismatch
  | refundMismatch

def QuoteTermsError.text : QuoteTermsError → String
  | .paymentMismatch => "paid-ness of the price, request, and payment terms disagree"
  | .priceIssuanceMismatch => "the quoted price does not equal the issuance total"
  | .refundMismatch => "refund issuance presence or mint generation disagrees with payment terms"

namespace QuoteTerms

def consistent (t : QuoteTerms) : Bool :=
  match t.payment with
  | none => t.priceMsats == 0 && t.request.paymentFederationId.isNone
  | some terms => t.priceMsats > 0 && t.request.paymentFederationId == some terms.federationId

def refundMatches (t : QuoteTerms) : Bool :=
  t.payment.map (·.generation) == t.request.refundIssuance.map (·.generation)

def checkCoherent (t : QuoteTerms) : Except QuoteTermsError Unit :=
  if !t.consistent then .error .paymentMismatch
  else if t.payment.any (fun terms => terms.totalMsats != some t.priceMsats) then
    .error .priceIssuanceMismatch
  else if !t.refundMatches then .error .refundMismatch
  else .ok ()

end QuoteTerms

/-! ## Signed responses -/

structure SignedResponse where
  payload : String
  signature : String
deriving DecidableEq

structure RefundTransaction where
  bytes : List UInt8

inductive CreateSeatOutcome where
  | accepted (seatId : QuoteId) (guardianFeeAccount : String)
  | refused (refundTransaction : Option RefundTransaction)

structure CreateSeatResponse where
  quoteId : QuoteId
  outcome : CreateSeatOutcome

structure VerifiedQuote where
  terms : QuoteTerms
  quoteId : QuoteId
deriving DecidableEq

structure Codec where
  verifySchnorr : (label : String) → (payload signature : String) → ServicePubkey → Bool
  sha256 : String → BitVec 256
  quoteTerms : String → Option QuoteTerms
  createSeatResponse : String → Option CreateSeatResponse
  /-- The fee account is accepted by `canonical_guardian_fee_recipient_list`. -/
  canonicalFeeAccount : String → Bool

inductive AuthError where
  | badSignature
  | payload (expected : String)

def AuthError.text : AuthError → String
  | .badSignature => "signature does not verify"
  | .payload expected => "payload is not a valid " ++ expected ++ " request"

namespace Codec

variable (codec : Codec)

def verify {α : Type} (label : String) (decode : String → Option α) (signed : SignedResponse)
    (servicePubkey : ServicePubkey) : Except AuthError α :=
  if codec.verifySchnorr label signed.payload signed.signature servicePubkey then
    match decode signed.payload with
    | some a => .ok a
    | none => .error (.payload label)
  else .error .badSignature

def quoteId (signed : SignedResponse) : QuoteId := codec.sha256 signed.payload

def verifySignedQuote (signed : SignedResponse) (servicePubkey : ServicePubkey) : Except AuthError VerifiedQuote :=
  (codec.verify "get_quote" codec.quoteTerms signed servicePubkey).map
    (fun terms => ⟨terms, codec.quoteId signed⟩)

def verifyCreateSeat (signed : SignedResponse) (servicePubkey : ServicePubkey) : Except AuthError CreateSeatResponse :=
  codec.verify "create_seat" codec.createSeatResponse signed servicePubkey

end Codec

/-! ## Errors -/

inductive MgOperation where
  | connect
  | getAvailability
  | getQuote
  | createSeat

def MgOperation.asStr : MgOperation → String
  | .connect => "connect"
  | .getAvailability => "get_availability"
  | .getQuote => "get_quote"
  | .createSeat => "create_seat"

inductive MgCause where
  | timeout
  | transport
  | invalidResponse
  | notAcceptingSeats
  | offerChanged
  | planNotOffered
  | paymentFederationNotAccepted
  | paymentFederationUnavailable
  | invalidPayment
  | capacityExhausted
  | unsupportedVersion
  | unsupportedFederationSize
  | unauthorized
  | unsupportedVerb
  | other (text : String)

structure MgFailure where
  mg : ServicePubkey
  operation : MgOperation
  cause : MgCause

inductive SelectionReauthorizationReason where
  | selectedMgUnavailable
  | quoteTotalExceedsLimit
  | selectedPayerUnavailable
  | paymentFederationRequired

inductive FaError where
  | mg (failure : MgFailure)
  | storage (message : String)
  | identity (message : String)
  | busy
  | selectionReauthorizationRequired (reason : SelectionReauthorizationReason) (failure : Option MgFailure)
  | manifoldGuardian (index : Nat) (message : String)
  | payment (message : String)
  | timeout (operation : String)

def mgError (index : Nat) (message : String) : FaError := .manifoldGuardian index message

/-! ## Checks -/

structure Locator where
  endpointAddr : String
  servicePubkey : ServicePubkey
deriving DecidableEq

def ResolvedFormationIntent.admits (intent : ResolvedFormationIntent) (faId : FaId)
    (request : GetQuoteRequest) : Bool :=
  request.faId == faId &&
    request.fedimintdVersion.dkgVersion == intent.fedimintdDkgVersion &&
    intent.fedimintdVersions.contains request.fedimintdVersion &&
    request.federationSize == intent.federationSize &&
    intent.plan.matches request.plan

def verifyQuote (codec : Codec) (index : Nat) (signed : SignedResponse) (locator : Locator)
    (intent : ResolvedFormationIntent) (faId : FaId) (expectedPayer : Option FederationId) :
    Except FaError VerifiedQuote :=
  match codec.verifySignedQuote signed locator.servicePubkey with
  | .error e => .error (mgError index ("invalid signed quote: " ++ e.text))
  | .ok quote =>
    if !intent.admits faId quote.terms.request then
      .error (mgError index "stored quote does not match the formation intent")
    else if expectedPayer.any (fun payer =>
        quote.terms.payment.any (fun payment => payment.federationId != payer)) then
      .error (mgError index "stored quote does not match the selected payment federation")
    else
      match quote.terms.checkCoherent with
      | .error e => .error (mgError index ("incoherent quote: " ++ e.text))
      | .ok () => .ok quote

structure GetAvailabilityResponse where
  acceptingSeats : Bool
  fedimintdVersion : FedimintdVersion
  federationSizes : List FederationSize
  plans : List Plan

inductive AvailabilityMismatch where
  | notAcceptingSeats
  | federationSize
  | fedimintdVersion
  | plan

def AvailabilityMismatch.cause : AvailabilityMismatch → MgCause
  | .notAcceptingSeats => .notAcceptingSeats
  | .federationSize => .unsupportedFederationSize
  | .fedimintdVersion => .unsupportedVersion
  | .plan => .planNotOffered

def matchRequestedAvailability (availability : GetAvailabilityResponse)
    (intent : ResolvedFormationIntent) : Except AvailabilityMismatch (FedimintdVersion × Plan) :=
  if !availability.acceptingSeats then .error .notAcceptingSeats
  else if !availability.federationSizes.contains intent.federationSize then .error .federationSize
  else if availability.fedimintdVersion.dkgVersion != intent.fedimintdDkgVersion ||
      !intent.fedimintdVersions.contains availability.fedimintdVersion then
    .error .fedimintdVersion
  else
    match availability.plans.find? intent.plan.matches with
    | none => .error .plan
    | some plan => .ok (availability.fedimintdVersion, plan)

end Manifold.FaClient
