import Manifold.Lib.Machine
import Manifold.Guardian.Store

/-!
# Quotes, admissions and offer writers interleaved

A `CreateSeat` call is cut at its only wait, between the snapshot read and its writer transaction.
-/

namespace Manifold.Guardian

structure Quote where
  quoteId : QuoteId
  offerEpoch : OfferEpoch
  faId : FaId
  plan : Plan
  federationSize : Nat
deriving DecidableEq

def Quote.newSeat (q : Quote) (payment : Option (List UInt8)) : NewSeat where
  seatId := q.quoteId
  faId := q.faId
  plan := q.plan
  federationSize := q.federationSize
  payment := payment

namespace Admission

structure Call where
  quote : Quote
  payment : Option (List UInt8)

structure State where
  store : Store
  /-- Every issued quote with the offer it was minted from. -/
  issued : List (Quote × Offer)
  calls : List Call
  drawn : List OfferEpoch

inductive Act where
  | getQuote (q : Quote)
  | createSeat (q : Quote) (payment : Option (List UInt8))
  | writer (i : Nat) (now : Int) (fresh : OfferEpoch)
  | cut (i : Nat)
  | crash
  | setOfferedPrice (price : Option Nat) (now : Int) (fresh : OfferEpoch)
  | configureInitialOffer (price : Option Nat) (maxSeats : Option UInt32) (now : Int) (fresh : OfferEpoch)
  | updateSeatsConfig (u : SeatsConfigUpdate) (now : Int) (fresh : OfferEpoch)
  | replaceSetupPaymentPolicy (eventJson : String) (memberIds : List FederationId) (fresh : OfferEpoch)
  | recordFormed (seatId : QuoteId) (invite : InviteCode) (now : Int)
  | decommissionSeat (seatId : QuoteId) (now : Int)
  | retireForTransfer (seatId : QuoteId)
  | recordTransferRemoval (seatId : QuoteId)

inductive Event where
  | quoted (q : Quote)
  | answered (quoteId : QuoteId) (r : SeatAdmissionResult)
  | assertionFailed (quoteId : QuoteId)
deriving DecidableEq

def State.commit {α : Type} (s : State) (tx : Tx α) : Option State :=
  if tx.drawn.all (fun e => !s.drawn.contains e) then
    some { s with store := tx.store, drawn := tx.drawn ++ s.drawn }
  else none

def WriterOutcome.events (quoteId : QuoteId) : WriterOutcome → List Event
  | .result r => [.answered quoteId r]
  | .assertionFailed => [.assertionFailed quoteId]
  | .failed _ => []

/-- A quote's id is the hash of its terms, so a different quote has another id. -/
def State.idFresh (s : State) (q : Quote) : Prop :=
  ∀ p ∈ s.issued, p.1.quoteId = q.quoteId → p.1 = q

instance (s : State) (q : Quote) : Decidable (s.idFresh q) :=
  inferInstanceAs (Decidable (∀ p ∈ s.issued, p.1.quoteId = q.quoteId → p.1 = q))

def step (first : PortBase) (s : State) : Act → Option (State × List Event)
  | .getQuote q =>
    match s.store.quoteOffer first with
    | none => none
    | some offer =>
      if q.offerEpoch = offer.epoch ∧ s.idFresh q then
        some ({ s with issued := (q, offer) :: s.issued }, [.quoted q])
      else none
  | .createSeat q payment =>
    if q ∈ s.issued.map Prod.fst then
      match s.store.admissionSnapshot q.quoteId with
      | (some facts, _) => some (s, [.answered q.quoteId (.existing facts)])
      | (none, epoch) =>
        if epoch ≠ q.offerEpoch then some (s, [.answered q.quoteId .offerChanged])
        else some ({ s with calls := ⟨q, payment⟩ :: s.calls }, [])
    else none
  | .writer i now fresh =>
    match s.calls[i]? with
    | none => none
    | some c =>
      let tx := s.store.admitSeatAtWriterBoundary (c.quote.newSeat c.payment) c.quote.offerEpoch
        first now fresh
      (State.commit { s with calls := s.calls.eraseIdx i } tx).map
        (fun s' => (s', WriterOutcome.events c.quote.quoteId tx.answer))
  | .cut i => some ({ s with calls := s.calls.eraseIdx i }, [])
  | .crash => some ({ s with calls := [] }, [])
  | .setOfferedPrice price now fresh =>
    (s.commit (s.store.setOfferedPrice price now fresh)).map (·, [])
  | .configureInitialOffer price maxSeats now fresh =>
    (s.commit (s.store.configureInitialOffer price maxSeats now fresh)).map (·, [])
  | .updateSeatsConfig u now fresh =>
    (s.commit (s.store.updateSeatsConfig u first now fresh)).map (·, [])
  | .replaceSetupPaymentPolicy eventJson memberIds fresh =>
    (s.commit (s.store.replaceSetupPaymentPolicy eventJson memberIds fresh)).map (·, [])
  | .recordFormed seatId invite now => (s.commit (s.store.recordFormed seatId invite now)).map (·, [])
  | .decommissionSeat seatId now => (s.commit (s.store.decommissionSeat seatId now)).map (·, [])
  | .retireForTransfer seatId => (s.commit (s.store.retireForTransfer seatId)).map (·, [])
  | .recordTransferRemoval seatId => (s.commit (s.store.recordTransferRemoval seatId)).map (·, [])

def init (s : State) : Prop :=
  s.issued = [] ∧ s.calls = [] ∧ s.drawn = [s.store.offer.offerEpoch]

def machine (first : PortBase) : Lib.Machine State Act Event where
  init := init
  step := step first

end Admission

end Manifold.Guardian
