import Manifold.Guardian.Admission

/-!
# Quotes and the payment policy

`get_quote` (`crates/mg/core/src/service.rs`) waits for the wallet before it signs, so offer writers run in between.
-/

namespace Manifold.Guardian

/-- `QuoteSettings::plans`: the stored price as the only plan, or no plan. -/
def QuoteSettings.plans (s : QuoteSettings) : List Plan :=
  (s.price.map (fun price => Plan.infiniteBestEffort (UInt64.ofNat price))).toList

namespace Quoting

inductive QuoteError where
  | capacityExhausted
  | planNotOffered
  | paymentFederationNotAccepted
  | internal

structure Request where
  plan : Plan
  paymentFederationId : Option FederationId
  hasRefund : Bool

def select (settings : QuoteSettings) (r : Request) : Except QuoteError (UInt64 × Option FederationId) :=
  if !settings.plans.contains r.plan then .error .planNotOffered
  else
    match r.plan with
    | .subscriptionBased _ _ _ => .error .internal
    | .infiniteBestEffort price =>
      if price = 0 then
        if r.paymentFederationId.isSome || r.hasRefund then .error .planNotOffered
        else .ok (price, none)
      else
        match r.paymentFederationId with
        | none => .error .paymentFederationNotAccepted
        | some selected =>
          if !settings.paymentFederations.contains selected then .error .paymentFederationNotAccepted
          else .ok (price, some selected)

structure Pending where
  offer : Offer
  priceMsats : UInt64
  paymentFederationId : Option FederationId

structure Issued where
  offerEpoch : OfferEpoch
  priceMsats : UInt64
  paymentFederationId : Option FederationId
  members : List FederationId

structure State where
  admission : Admission.State
  pending : List Pending
  issued : List Issued

inductive Act where
  | admission (a : Admission.Act)
  | getQuote (r : Request)
  | sign (i : Nat)
  | cut (i : Nat)
  | crash

inductive Event where
  | quoted (q : Issued)
  | refused (e : QuoteError)

def State.members (s : State) : List FederationId := s.admission.store.members

def State.epoch (s : State) : OfferEpoch := s.admission.store.offer.offerEpoch

def getQuote (first : PortBase) (s : State) (r : Request) : State × List Event :=
  match s.admission.store.quoteOffer first with
  | none => (s, [.refused .capacityExhausted])
  | some offer =>
    match select offer.settings r with
    | .error e => (s, [.refused e])
    | .ok (price, federation) => ({ s with pending := s.pending ++ [⟨offer, price, federation⟩] }, [])

def Pending.sign (p : Pending) (members : List FederationId) : Issued where
  offerEpoch := p.offer.epoch
  priceMsats := p.priceMsats
  paymentFederationId := p.paymentFederationId
  members := members

def step (first : PortBase) (s : State) : Act → Option (State × List Event)
  | .admission a => (Admission.step first s.admission a).map (fun r => ({ s with admission := r.1 }, []))
  | .getQuote r => some (getQuote first s r)
  | .sign i =>
    s.pending[i]?.map (fun p =>
      let q := p.sign s.members
      ({ s with pending := s.pending.eraseIdx i, issued := q :: s.issued }, [.quoted q]))
  | .cut i => some ({ s with pending := s.pending.eraseIdx i }, [])
  | .crash => some ({ s with pending := [] }, [])

def machine (first : PortBase) : Lib.Machine State Act Event where
  init s := Admission.init s.admission ∧ s.pending = [] ∧ s.issued = []
  step := step first

end Quoting

end Manifold.Guardian
