import Manifold.Lib.Task
import Manifold.FaClient.Payments

/-!
# Buying a transfer's destination seat

`drive_seat_purchase`. A call that runs out of time or loses its lease may have taken effect or not.
-/

namespace Manifold.FaClient

open Guardian (QuoteId FaId FederationId Plan)
open Lib (Routine)

/-! ## Rows -/

structure StoredDestinationSeat where
  mgId : PublicKey
  locator : Locator
  seatId : QuoteId
  guardianFeeAccount : Option String
  holder : Option PublicKey
deriving DecidableEq

structure StoredSeatPurchase where
  mgId : PublicKey
  holder : PublicKey
  locator : Locator
  terms : ResolvedFormationIntent
  maxMsats : UInt64
  signedQuote : Option SignedResponse
  outputsStarted : Bool
  paymentFederationId : Option FederationId
deriving DecidableEq

inductive StoredTransferPhase where
  | pulling
  | binding
  | removingSource
deriving DecidableEq

structure StoredMove where
  destination : StoredDestinationSeat
  binding : Option String
  phase : StoredTransferPhase
deriving DecidableEq

inductive TransferStage where
  | buying (purchase : StoredSeatPurchase)
  | moving (move : StoredMove)
deriving DecidableEq

structure StoredGuardianTransfer where
  transferId : FormationId
  stage : TransferStage
deriving DecidableEq

inductive GuardianTransferWrite where
  | update (transfer : StoredGuardianTransfer)
  | close
deriving DecidableEq

/-! ## Questions -/

inductive CallFault where
  | timeout
  | busy
  | storage (message : String)

def CallFault.error (operation : String) : CallFault → FaError
  | .timeout => .timeout operation
  | .busy => .busy
  | .storage message => .storage message

structure CreateSeatRequest where
  ts : Nat
  faId : FaId
  quote : SignedResponse
  paymentSignatures : List String

inductive Ask where
  | nowSecs
  /-- Renew the lease under the deadline, as `construct` and `prepare_value_call_budget` do. -/
  | renew
  | sign (request : CreateSeatRequest)
  | writeGuardianTransfer (write : GuardianTransferWrite)
  -- the guardian
  | connect (locator : Locator)
  | getAvailability (locator : Locator)
  | getQuote (locator : Locator) (request : GetQuoteRequest)
  | createSeat (locator : Locator) (request : CreateSeatRequest)
  -- the payment policy and the wallet
  | refreshSetupPaymentPolicy
  | payableFederations (admitted : List FederationId)
  | prepareQuoteRefund (federationId : FederationId) (plan : Plan)
  | recoverPaymentReservation (id : PaymentReservationId) (preflight : ExactPaymentPreflight)
  | reservePaymentRequirements (id : PaymentReservationId) (preflight : ExactPaymentPreflight)
  | releasePaymentReservation (reservation : PaymentReservation)
  | releaseSeatPaymentReservation (proof : TerminalReleaseProof)
  | recoverSeatPayment (id : PaymentReservationId) (quote : VerifiedQuote)
  | createSeatPayment (reservation : PaymentReservation) (quote : VerifiedQuote)
  | settleSeatRefund (context : RefundContext) (refund : RefundTransaction)

abbrev WalletCall (α : Type) := Except CallFault (Except String α)

abbrev MgCall (α : Type) := Except CallFault (Except MgCause α)

@[reducible] def Ans : Ask → Type
  | .nowSecs => Nat
  | .renew => Except CallFault Unit
  | .sign _ => Except String Unit
  | .writeGuardianTransfer _ => Except FaError Unit
  | .connect _ => Except CallFault (Except Unit Unit)
  | .getAvailability _ => MgCall GetAvailabilityResponse
  | .getQuote _ _ => MgCall SignedResponse
  | .createSeat _ _ => MgCall SignedResponse
  | .refreshSetupPaymentPolicy => Except CallFault (Option (List FederationId))
  | .payableFederations _ => WalletCall (List FederationId)
  | .prepareQuoteRefund _ _ => WalletCall RefundIssuance
  | .recoverPaymentReservation _ _ => WalletCall PaymentReservationRecovery
  | .reservePaymentRequirements _ _ => WalletCall PaymentReservation
  | .releasePaymentReservation _ => WalletCall Unit
  | .releaseSeatPaymentReservation _ => WalletCall Unit
  | .recoverSeatPayment _ _ => WalletCall SeatPaymentRecovery
  | .createSeatPayment _ _ => WalletCall PreparedSeatPayment
  | .settleSeatRefund _ _ => WalletCall TerminalReleaseProof

abbrev Driver := Routine Ans Unit FaError

structure Env where
  codec : Codec
  faId : FaId
  setupPaymentPublisher : Option PublicKey
  paymentAuthorizationId : FormationId → UInt64 → List SeatPaymentRequirement → PaymentAuthorizationId
  reservationDigest : FormationId → PaymentAuthorizationId → PaymentReservationId

namespace Driver

def ask (e : Ask) : Driver (Ans e) := Routine.ask e

def call {α : Type} (operation : String) (r : Driver (Except CallFault α)) : Driver α := do
  match ← r with
  | .ok a => pure a
  | .error fault => throw (fault.error operation)

def walletCall {α : Type} (operation : String) (r : Driver (WalletCall α)) : Driver α := do
  match ← call operation r with
  | .ok a => pure a
  | .error text => throw (.payment text)

def mgCall {α : Type} (locator : Locator) (operation : MgOperation) (r : Driver (MgCall α)) : Driver α := do
  match ← r with
  | .error .timeout => throw (.mg ⟨locator.servicePubkey, operation, .timeout⟩)
  | .error fault => throw (fault.error operation.asStr)
  | .ok (.error cause) => throw (.mg ⟨locator.servicePubkey, operation, cause⟩)
  | .ok (.ok a) => pure a

def connect (locator : Locator) : Driver Unit :=
  mgCall locator .connect ((·.map (·.mapError fun _ => .transport)) <$> ask (.connect locator))

def write (w : GuardianTransferWrite) : Driver Unit := do
  Routine.ofExcept (← ask (.writeGuardianTransfer w))

/-! ## The payer -/

variable (env : Env)

def payableSetupPaymentFederations : Driver (List FederationId × List FederationId) := do
  if env.setupPaymentPublisher.isNone then
    throw (.payment "paid formation requires a deployment-pinned setup-payment publisher")
  else
    match ← call "refreshing setup-payment policy" (ask .refreshSetupPaymentPolicy) with
    | none => throw (.payment "no authenticated setup-payment federation set is available")
    | some policyIds =>
      if policyIds.isEmpty then
        throw (.payment "the authenticated setup-payment federation set is empty")
      else
        let payable ← walletCall "selecting a payable federation" (ask (.payableFederations policyIds))
        pure (policyIds, payable)

def payerUnavailable : FaError := .selectionReauthorizationRequired .selectedPayerUnavailable none

def requireSetupPaymentFederation (requested : FederationId) : Driver FederationId := do
  let (policyIds, payable) ← Routine.mapError
    (fun
      | .payment _ => payerUnavailable
      | error => error)
    (payableSetupPaymentFederations env)
  if !policyIds.contains requested || !payable.contains requested then throw payerUnavailable
  else pure requested

/-! ## Quotes -/

end Driver

inductive QuoteAttemptPolicy where
  | replaceableSelection
  | exactRecovery
deriving DecidableEq

def QuoteAttemptPolicy.allowsSelectionReauthorization (p : QuoteAttemptPolicy) : Bool :=
  p == .replaceableSelection

def MgCause.endsSelection : MgCause → Bool
  | .capacityExhausted | .planNotOffered | .paymentFederationNotAccepted | .unsupportedVersion
  | .unsupportedFederationSize | .invalidResponse => true
  | _ => false

def QuoteAttemptPolicy.quoteError (policy : QuoteAttemptPolicy) : FaError → FaError
  | .mg failure =>
    if policy.allowsSelectionReauthorization && failure.cause.endsSelection then
      .selectionReauthorizationRequired .selectedMgUnavailable (some failure)
    else .mg failure
  | error => error

def Plan.priced : Plan → Bool
  | .infiniteBestEffort priceMsats => priceMsats > 0
  | .subscriptionBased _ _ _ => true

namespace Driver

variable (env : Env)

/-- The payer a priced plan is quoted for. `paymentFederation` is the cell that keeps a payer already
checked, if the caller has one. -/
def pricedQuotePayer (index : Nat) (policy : QuoteAttemptPolicy) (expectedPayer : Option FederationId)
    (paymentFederation : Option (Option FederationId)) : Driver FederationId :=
  match paymentFederation with
  | none =>
    if policy.allowsSelectionReauthorization then
      throw (.selectionReauthorizationRequired .paymentFederationRequired none)
    else
      throw (mgError index ("Manifold Guardian charges for a seat, and this FA has no authenticated " ++
        "payment policy to pay from"))
  | some (some payer) => pure payer
  | some none =>
    match expectedPayer with
    | some requested => requireSetupPaymentFederation env requested
    | none => throw (.selectionReauthorizationRequired .paymentFederationRequired none)

def quotePayer (index : Nat) (policy : QuoteAttemptPolicy) (expectedPayer : Option FederationId)
    (paymentFederation : Option (Option FederationId)) (plan : Plan) : Driver (Option FederationId) :=
  if Plan.priced plan then some <$> pricedQuotePayer env index policy expectedPayer paymentFederation
  else pure none

def quoteRefund (payer : Option FederationId) (plan : Plan) : Driver (Option RefundIssuance) :=
  match payer with
  | some federationId =>
    some <$> walletCall "preparing quote refund" (ask (.prepareQuoteRefund federationId plan))
  | none => pure none

def getQuote (index : Nat) (locator : Locator) (intent : ResolvedFormationIntent)
    (expectedPayer : Option FederationId) (request : GetQuoteRequest) :
    Driver (SignedResponse × VerifiedQuote) := do
  let signed ← mgCall locator .getQuote (ask (.getQuote locator request))
  let invalid : FaError := .mg ⟨locator.servicePubkey, .getQuote, .invalidResponse⟩
  match verifyQuote env.codec index signed locator intent env.faId expectedPayer with
  | .error _ => throw invalid
  | .ok quote => if quote.terms.request ≠ request then throw invalid else pure (signed, quote)

def requestNewQuote (index : Nat) (locator : Locator) (intent : ResolvedFormationIntent)
    (policy : QuoteAttemptPolicy) (expectedPayer : Option FederationId)
    (paymentFederation : Option (Option FederationId)) : Driver (SignedResponse × VerifiedQuote) := do
  let availability ← mgCall locator .getAvailability (ask (.getAvailability locator))
  match matchRequestedAvailability availability intent with
  | .error mismatch =>
    let failure : MgFailure := ⟨locator.servicePubkey, .getAvailability, mismatch.cause⟩
    if policy.allowsSelectionReauthorization then
      throw (.selectionReauthorizationRequired .selectedMgUnavailable (some failure))
    else throw (.mg failure)
  | .ok (version, plan) =>
    let payer ← quotePayer env index policy expectedPayer paymentFederation plan
    let refund ← quoteRefund payer plan
    let request : GetQuoteRequest := ⟨env.faId, version, intent.federationSize, plan, payer, refund⟩
    Routine.mapError policy.quoteError (getQuote env index locator intent expectedPayer request)

end Driver

/-! ## The purchase -/

namespace Env

variable (env : Env)

def verify (p : StoredSeatPurchase) (signed : SignedResponse) : Except FaError VerifiedQuote :=
  verifyQuote env.codec 0 signed p.locator p.terms env.faId p.paymentFederationId

def purchaseRequirements (transferId : FormationId) (p : StoredSeatPurchase) (quote : VerifiedQuote) :
    Except FaError PaymentRequirements :=
  match quote.terms.payment with
  | none => .error (.storage "a free destination seat quote has no payment")
  | some terms =>
    let seats : List SeatPaymentRequirement :=
      [⟨0, p.mgId, quote.quoteId, terms.federationId, quote.terms.priceMsats⟩]
    .ok {
      authorizationId := env.paymentAuthorizationId transferId quote.terms.priceMsats seats
      totalMsats := quote.terms.priceMsats
      maxTotalMsats := some p.maxMsats
      seats := seats }

def paymentReservationId (transferId : FormationId) (r : PaymentRequirements) : PaymentReservationId :=
  env.reservationDigest transferId r.authorizationId

end Env

inductive SeatPresentation where
  | free (signed : SignedResponse) (verified : VerifiedQuote)
  | paid (signed : SignedResponse) (verified : VerifiedQuote) (prepared : PreparedSeatPayment)

inductive SeatCreation where
  | accepted (seatId : QuoteId) (guardianFeeAccount : String)
  | refused (error : MgFailure) (releaseProof : Option TerminalReleaseProof)

namespace Driver

variable (env : Env)

def savePurchase (transfer : StoredGuardianTransfer) (p : StoredSeatPurchase) : Driver Unit :=
  write (.update { transfer with stage := .buying p })

def releaseStale : PaymentReservationRecovery → Driver Unit
  | .existing reservation =>
    walletCall "releasing stale destination seat reservation" (ask (.releasePaymentReservation reservation))
  | .absent => pure ()

/-- A stored paid quote whose outputs never started may be stale: give back its reservation, forget it. -/
def refreshStaleQuote (transfer : StoredGuardianTransfer) (p : StoredSeatPurchase) : Driver StoredSeatPurchase :=
  match p.outputsStarted, p.signedQuote with
  | false, some signed => do
      let quote ← Routine.ofExcept (env.verify p signed)
      if quote.terms.payment.isNone then pure p
      else
        let requirements ← Routine.ofExcept (env.purchaseRequirements transfer.transferId p quote)
        let preflight ← Routine.ofExcept (ExactPaymentPreflight.new requirements [quote])
        let id := env.paymentReservationId transfer.transferId requirements
        let recovered ← walletCall "recovering destination seat reservation"
          (ask (.recoverPaymentReservation id preflight))
        releaseStale recovered
        savePurchase transfer { p with signedQuote := none }
        pure { p with signedQuote := none }
  | _, _ => pure p

def obtainQuote (transfer : StoredGuardianTransfer) (p : StoredSeatPurchase) :
    Driver (StoredSeatPurchase × SignedResponse) :=
  match p.signedQuote with
  | some signed => pure (p, signed)
  | none => do
      match ← Routine.attempt (requestNewQuote env 0 p.locator p.terms .replaceableSelection
          p.paymentFederationId (some none)) with
      | .error (.selectionReauthorizationRequired reason failure) =>
        write .close
        throw (.selectionReauthorizationRequired reason failure)
      | .error error => throw error
      | .ok (signed, quote) =>
        if p.maxMsats < quote.terms.priceMsats then
          write .close
          throw (.selectionReauthorizationRequired .quoteTotalExceedsLimit none)
        else
          savePurchase transfer { p with signedQuote := some signed }
          pure ({ p with signedQuote := some signed }, signed)

/-- How a payment whose outputs may have started ended, unless the wallet proves that it never started. -/
def recoverFunding (p : StoredSeatPurchase) (id : PaymentReservationId) (quote : VerifiedQuote) :
    Driver (Option (Option PreparedSeatPayment)) :=
  if p.outputsStarted then do
    match ← walletCall "recovering destination seat payment" (ask (.recoverSeatPayment id quote)) with
    | .prepared prepared => pure (some (some prepared))
    | .rejected proof =>
      walletCall "releasing rejected destination seat payment"
        (ask (.releaseSeatPaymentReservation proof))
      pure (some none)
    | .notStarted => pure none
  else pure none

def holdReservation (p : StoredSeatPurchase) (id : PaymentReservationId)
    (preflight : ExactPaymentPreflight) : Driver PaymentReservation := do
  match ← walletCall "recovering destination seat reservation"
      (ask (.recoverPaymentReservation id preflight)) with
  | .existing reservation => pure reservation
  | .absent =>
    if p.outputsStarted then
      throw (.storage "destination seat payment started but its wallet reservation is absent")
    else
      walletCall "reserving destination seat payment" (ask (.reservePaymentRequirements id preflight))

/-- A boundary passed before is only passed again under the current policy; a withdrawn payer unmarks and closes the
purchase. -/
def passBoundary (transfer : StoredGuardianTransfer) (p : StoredSeatPurchase) (payer : FederationId)
    (reservation : PaymentReservation) : Driver Unit :=
  if p.outputsStarted then do
    match ← Routine.attempt (requireSetupPaymentFederation env payer) with
    | .ok _ => pure ()
    | .error (.selectionReauthorizationRequired reason failure) =>
      savePurchase transfer { p with outputsStarted := false }
      walletCall "releasing destination seat reservation" (ask (.releasePaymentReservation reservation))
      write .close
      throw (.selectionReauthorizationRequired reason failure)
    | .error error => throw error
  else savePurchase transfer { p with outputsStarted := true }

/-- Fund the purchase's paid quote, or replay its existing funding. `none` means the wallet proved the funding
rejected and refunded. -/
def fundSeatPurchase (transfer : StoredGuardianTransfer) (p : StoredSeatPurchase) (quote : VerifiedQuote) :
    Driver (Option PreparedSeatPayment) := do
  let requirements ← Routine.ofExcept (env.purchaseRequirements transfer.transferId p quote)
  let id := env.paymentReservationId transfer.transferId requirements
  match ← recoverFunding p id quote with
  | some funding => pure funding
  | none =>
    match quote.terms.payment with
    | none => throw (.storage "a free destination seat quote has no payment")
    | some terms =>
      let preflight ← Routine.ofExcept (ExactPaymentPreflight.new requirements [quote])
      let reservation ← holdReservation p id preflight
      passBoundary env transfer p terms.federationId reservation
      call "funding destination seat payment" (ask .renew)
      let prepared ← walletCall "funding destination seat payment"
        (ask (.createSeatPayment reservation quote))
      pure (some prepared)

def presentationParts (index : Nat) : SeatPresentation →
    Except FaError (SignedResponse × VerifiedQuote × List String × Option RefundContext)
  | .free signed verified => .ok (signed, verified, [], none)
  | .paid signed verified prepared =>
    if verified.terms.payment.map (·.generation) ≠ some prepared.settledUnder then
      .error (mgError index "wallet payment generation did not match the quote")
    else .ok (signed, verified, prepared.paymentSignatures, some prepared.refundContext)

def settleRefusal (index : Nat) (refundContext : Option RefundContext) (refund : Option RefundTransaction) :
    Driver (Option TerminalReleaseProof) :=
  match refundContext, refund with
  | some context, some refund =>
    some <$> walletCall "settling refused seat refund" (ask (.settleSeatRefund context refund))
  | none, none => pure none
  | _, _ => throw (mgError index "refusal payment and refund material did not match the quote")

def presentSeat (index : Nat) (locator : Locator) (presentation : SeatPresentation) : Driver SeatCreation := do
  let (signed, quote, signatures, refundContext) ← Routine.ofExcept (presentationParts index presentation)
  let ts ← ask .nowSecs
  let request : CreateSeatRequest := ⟨ts, env.faId, signed, signatures⟩
  call "signing CreateSeat request" (ask .renew)
  match ← ask (.sign request) with
  | .error text => throw (.identity text)
  | .ok () =>
    let response ← mgCall locator .createSeat (ask (.createSeat locator request))
    let failure (cause : MgCause) : MgFailure := ⟨locator.servicePubkey, .createSeat, cause⟩
    match env.codec.verifyCreateSeat response locator.servicePubkey with
    | .error _ => throw (.mg (failure .invalidResponse))
    | .ok response =>
      if response.quoteId ≠ quote.quoteId then throw (.mg (failure .invalidResponse))
      else
        match response.outcome with
        | .accepted seatId account =>
          if env.codec.canonicalFeeAccount account then pure (.accepted seatId account)
          else throw (.mg (failure .invalidResponse))
        | .refused refund =>
          let proof ← settleRefusal index refundContext refund
          pure (.refused (failure .offerChanged) proof)

def preparePresentation (transfer : StoredGuardianTransfer) (p : StoredSeatPurchase)
    (signed : SignedResponse) (verified : VerifiedQuote) : Driver SeatPresentation :=
  if verified.terms.payment.isNone then pure (.free signed verified)
  else do
    match ← fundSeatPurchase env transfer p verified with
    | some prepared => pure (.paid signed verified prepared)
    | none =>
      write .close
      throw (.selectionReauthorizationRequired .selectedPayerUnavailable none)

def releaseRefused : Option TerminalReleaseProof → Driver Unit
  | some proof =>
    walletCall "releasing refused destination seat payment" (ask (.releaseSeatPaymentReservation proof))
  | none => pure ()

def concludePresentation (p : StoredSeatPurchase) : SeatCreation → Driver StoredDestinationSeat
  | .accepted seatId account => pure ⟨p.mgId, p.locator, seatId, some account, some p.holder⟩
  | .refused error proof => do
      releaseRefused proof
      write .close
      throw (.selectionReauthorizationRequired .selectedMgUnavailable (some error))

def driveSeatPurchase (transfer : StoredGuardianTransfer) (p : StoredSeatPurchase) : Driver StoredDestinationSeat := do
  connect p.locator
  let p ← refreshStaleQuote env transfer p
  let (p, signed) ← obtainQuote env transfer p
  let verified ← Routine.ofExcept (env.verify p signed)
  let presentation ← preparePresentation env transfer p signed verified
  let creation ← presentSeat env 0 p.locator presentation
  concludePresentation p creation

/-- The first stage of `drive_guardian_transfer`: buy the seat and record the move onto it. -/
def driveBuying (transfer : StoredGuardianTransfer) (p : StoredSeatPurchase) : Driver Unit := do
  let destination ← driveSeatPurchase env transfer p
  write (.update { transfer with stage := .moving ⟨destination, none, .pulling⟩ })

end Driver

end Manifold.FaClient
