import Manifold.FaClient.Quotes

/-!
# The wallet behind `FaPayments`

The wallet under one reservation scope. A call that fails or is cut may still have made its change.
-/

namespace Manifold.FaClient

open Guardian (QuoteId FederationId)

abbrev PaymentAuthorizationId := BitVec 256
abbrev PaymentReservationId := BitVec 256

structure SeatPaymentRequirement where
  index : Nat
  mgId : PublicKey
  quoteId : QuoteId
  paymentFederationId : FederationId
  amountMsats : UInt64

structure PaymentRequirements where
  authorizationId : PaymentAuthorizationId
  totalMsats : UInt64
  maxTotalMsats : Option UInt64
  seats : List SeatPaymentRequirement

structure ExactPaymentPreflight where
  seats : List (SeatPaymentRequirement × VerifiedQuote)
  totalMsats : UInt64
  maxTotalMsats : Option UInt64

namespace ExactPaymentPreflight

def new (requirements : PaymentRequirements) (quotes : List VerifiedQuote) : Except FaError ExactPaymentPreflight :=
  if requirements.seats.length ≠ quotes.length then
    .error (.storage "payment requirement and verified quote counts differ")
  else if (requirements.seats.map (·.quoteId)).dedup.length ≠ requirements.seats.length then
    .error (.storage "payment aggregate contains duplicate semantic quote ids")
  else
    let seats := requirements.seats.zip quotes
    if seats.all (fun s => s.2.quoteId == s.1.quoteId) then
      .ok ⟨seats, requirements.totalMsats, requirements.maxTotalMsats⟩
    else .error (.storage "payment requirement is not bound to its verified quote")

def quoteIds (p : ExactPaymentPreflight) : List QuoteId := p.seats.map (·.1.quoteId)

end ExactPaymentPreflight

/-! ## What the wallet hands out -/

structure PaymentReservation where
  id : PaymentReservationId
  quoteIds : List QuoteId
deriving DecidableEq

inductive PaymentReservationRecovery where
  | existing (reservation : PaymentReservation)
  | absent
deriving DecidableEq

structure RefundContext where
  reservationId : PaymentReservationId
  quoteId : QuoteId
deriving DecidableEq

structure TerminalReleaseProof where
  reservationId : PaymentReservationId
  quoteId : QuoteId
deriving DecidableEq

structure PreparedSeatPayment where
  paymentSignatures : List String
  settledUnder : MintGeneration
  refundContext : RefundContext
deriving DecidableEq

inductive SeatPaymentRecovery where
  | notStarted
  | prepared (payment : PreparedSeatPayment)
  | rejected (proof : TerminalReleaseProof)
deriving DecidableEq

/-! ## Payments -/

/-- How far the payment of a quote has come. Rejected or refunded, it is released once its member of the reservation
is. -/
inductive Payment where
  | notStarted
  | pending
  | accepted
  | rejected (released : Bool)
  | refunded (released : Bool)
deriving DecidableEq

namespace Payment

def live : Payment → Bool
  | .pending | .accepted => true
  | _ => false

def unreleased : Payment → Bool
  | .notStarted | .rejected true | .refunded true => false
  | _ => true

def funded : Payment → Bool
  | .accepted | .refunded _ => true
  | _ => false

def terminal : Payment → Bool
  | .rejected _ | .refunded _ => true
  | _ => false

def decides : Payment → Payment → Bool
  | .pending, .accepted | .pending, .rejected false => true
  | p, q => p == q

def funds : Payment → Payment → Bool
  | .notStarted, .notStarted | .notStarted, .pending | .notStarted, .accepted
  | .notStarted, .rejected false => true
  | p, q => p.decides q

def release : Payment → Payment
  | .rejected _ => .rejected true
  | .refunded _ => .refunded true
  | p => p

end Payment

structure Wallet where
  reservations : List PaymentReservation := []
  payment : QuoteId → Payment := fun _ => .notStarted

namespace Wallet

variable (w : Wallet)

def setPayment (q : QuoteId) (p : Payment) : Wallet :=
  { w with payment := fun r => if r = q then p else w.payment r }

def lookup (id : PaymentReservationId) : Option PaymentReservation :=
  w.reservations.find? (fun r => r.id == id)

/-- `recover_payment_reservation`. A journal under the same id with other terms is no answer. -/
def recoverReservation (id : PaymentReservationId) (preflight : ExactPaymentPreflight) :
    Option PaymentReservationRecovery :=
  match w.lookup id with
  | none => some .absent
  | some r => if r.quoteIds = preflight.quoteIds then some (.existing r) else none

/-- `reserve_payment_requirements`: repeating it gives back the journaled reservation. -/
def reserve (id : PaymentReservationId) (preflight : ExactPaymentPreflight) : Option (PaymentReservation × Wallet) :=
  match w.lookup id with
  | none =>
    let r : PaymentReservation := ⟨id, preflight.quoteIds⟩
    some (r, { w with reservations := r :: w.reservations })
  | some r => if r.quoteIds = preflight.quoteIds then some (r, w) else none

/-- `release_payment_reservation`: only while no named payment has started. -/
def release (r : PaymentReservation) : Option (Unit × Wallet) :=
  if r.quoteIds.all (fun q => w.payment q == .notStarted) then
    some ((), { w with reservations := w.reservations.filter (fun s => s.id != r.id) })
  else none

def dropMember (id : PaymentReservationId) (q : QuoteId) : List PaymentReservation :=
  (w.reservations.map (fun r =>
    if r.id = id then { r with quoteIds := r.quoteIds.filter (· != q) } else r)).filter
      (fun r => r.id != id || !r.quoteIds.isEmpty)

def releaseMember (proof : TerminalReleaseProof) : Option (Unit × Wallet) :=
  if (w.payment proof.quoteId).terminal then
    some ((), { w.setPayment proof.quoteId (w.payment proof.quoteId).release with
      reservations := w.dropMember proof.reservationId proof.quoteId })
  else none

/-- `recover_seat_payment`. A pending payment has no answer yet; a refunded one replays its presentation or
shows its release proof. -/
def recoverPayment (id : PaymentReservationId) (q : QuoteId) (signatures : List String)
    (generation : MintGeneration) (replay : Bool) : Option SeatPaymentRecovery :=
  let prepared : SeatPaymentRecovery := .prepared ⟨signatures, generation, ⟨id, q⟩⟩
  match w.payment q with
  | .notStarted => some .notStarted
  | .pending => none
  | .accepted => some prepared
  | .rejected _ => some (.rejected ⟨id, q⟩)
  | .refunded _ => some (if replay then prepared else .rejected ⟨id, q⟩)

def fund (q : QuoteId) (p : Payment) : Option Wallet :=
  if (w.payment q).funds p then some (w.setPayment q p) else none

/-- `settle_seat_refund`: repeating it changes nothing. -/
def settle (context : RefundContext) : Option (TerminalReleaseProof × Wallet) :=
  let proof : TerminalReleaseProof := ⟨context.reservationId, context.quoteId⟩
  match w.payment context.quoteId with
  | .accepted => some (proof, w.setPayment context.quoteId (.refunded false))
  | .refunded _ => some (proof, w)
  | _ => none

end Wallet

end Manifold.FaClient
