import Manifold.Guardian.SeatRows

/-!
# The durable store of a Manifold Guardian

The tables of `crates/mg/core/migrations` that admission reads.
-/

namespace Manifold.Guardian

structure SeatTable where
  rows : List SeatRows
  ids_nodup : (rows.map (·.facts.seatId)).Nodup
  nos_nodup : (rows.map (·.facts.seatNo)).Nodup

namespace SeatTable

def empty : SeatTable := ⟨[], by simp, by simp⟩

def find? (t : SeatTable) (id : QuoteId) : Option SeatRows :=
  t.rows.find? (fun r => r.facts.seatId == id)

def insert (t : SeatTable) (r : SeatRows) : Option SeatTable :=
  if h : r.facts.seatId ∉ t.rows.map (·.facts.seatId) ∧ r.facts.seatNo ∉ t.rows.map (·.facts.seatNo) then
    some ⟨r :: t.rows, by simpa using ⟨by simpa using h.1, t.ids_nodup⟩,
      by simpa using ⟨by simpa using h.2, t.nos_nodup⟩⟩
  else none

/-- Change the dependent rows of one seat. The creation facts are immutable (trigger
`seats_creation_immutable`), so they are put back. -/
def modifyRow (id : QuoteId) (f : SeatRows → SeatRows) (r : SeatRows) : SeatRows :=
  if r.facts.seatId = id then { f r with facts := r.facts } else r

@[simp] theorem modifyRow_facts (id : QuoteId) (f : SeatRows → SeatRows) (r : SeatRows) :
    (modifyRow id f r).facts = r.facts := by
  unfold modifyRow; split <;> rfl

def modify (t : SeatTable) (id : QuoteId) (f : SeatRows → SeatRows) : SeatTable where
  rows := t.rows.map (modifyRow id f)
  ids_nodup := by simpa [Function.comp_def] using t.ids_nodup
  nos_nodup := by simpa [Function.comp_def] using t.nos_nodup

def activeCount (t : SeatTable) : Nat := t.rows.countP SeatRows.active

def nextNo (t : SeatTable) : Nat := t.rows.foldr (fun r m => max (r.facts.seatNo + 1) m) 0

end SeatTable

structure OfferState where
  maxSeats : Option UInt32
  memoryMaxSeats : UInt32
  policyMaxSeats : UInt32
  readyForNewSeats : Bool
  priceMsats : Option Nat
  offerEpoch : OfferEpoch
  updatedAtMs : Option Int

structure Store where
  seats : SeatTable
  offer : OfferState
  stage : OnboardingStage
  members : List FederationId
  setupPaymentEvent : Option String

/-- The committed store (the old one after a rollback), the epochs drawn from the random source, and the answer of
the call. -/
structure Tx (α : Type) where
  store : Store
  drawn : List OfferEpoch := []
  answer : α

/-! ## Capacity -/

def effectiveMaxSeats (maxSeats : Option UInt32) (memory policy : UInt32) : Nat :=
  min (min (match maxSeats with | some m => m.toNat | none => u32Max) memory.toNat) policy.toNat

def availableSlots (maxSeats : Nat) (first : PortBase) (active nextNo : Nat) : Nat :=
  let seatSlots := maxSeats - u32OrMax active
  let nextNo := u32OrMax nextNo
  let portSlots := ((List.range seatSlots).takeWhile
    (fun offset => (SeatNo.portBase (u32SaturatingAdd nextNo offset) first).isSome)).length
  min seatSlots portSlots

structure SeatsConfig where
  maxSeats : Option UInt32
  memoryMaxSeats : UInt32
  policyMaxSeats : UInt32
  readyForNewSeats : Bool
deriving DecidableEq

def OfferState.seatsConfig (o : OfferState) : SeatsConfig :=
  ⟨o.maxSeats, o.memoryMaxSeats, o.policyMaxSeats, o.readyForNewSeats⟩

def SeatsConfig.slots (c : SeatsConfig) (first : PortBase) (seats : SeatTable) : Nat :=
  availableSlots (effectiveMaxSeats c.maxSeats c.memoryMaxSeats c.policyMaxSeats) first
    seats.activeCount seats.nextNo

def Store.slots (s : Store) (first : PortBase) : Nat :=
  s.offer.seatsConfig.slots first s.seats

/-! ## Offer snapshot -/

structure QuoteSettings where
  price : Option Nat
  paymentFederations : List FederationId

structure Offer where
  epoch : OfferEpoch
  settings : QuoteSettings

structure OfferSnapshot where
  offer : Offer
  maxSeats : Option UInt32
  memoryMaxSeats : UInt32
  policyMaxSeats : UInt32
  slots : Nat
  readyForNewSeats : Bool

def Store.offerSnapshot (s : Store) (first : PortBase) : OfferSnapshot where
  offer :=
    { epoch := s.offer.offerEpoch
      settings := { price := s.offer.priceMsats, paymentFederations := s.members } }
  maxSeats := s.offer.maxSeats
  memoryMaxSeats := s.offer.memoryMaxSeats
  policyMaxSeats := s.offer.policyMaxSeats
  slots := s.slots first
  readyForNewSeats := s.offer.readyForNewSeats

def Store.quoteOffer (s : Store) (first : PortBase) : Option Offer :=
  if 0 < (s.offerSnapshot first).slots ∧ (s.offerSnapshot first).readyForNewSeats then
    some (s.offerSnapshot first).offer
  else none

/-! ## Offer writers -/

def Store.setOfferedPrice (s : Store) (price : Option Nat) (now : Int) (fresh : OfferEpoch) : Tx OfferEpoch :=
  if s.offer.priceMsats ≠ price then
    { store := { s with offer :=
        { s.offer with priceMsats := price, updatedAtMs := some now, offerEpoch := fresh } }
      drawn := [fresh]
      answer := fresh }
  else { store := s, answer := s.offer.offerEpoch }

def Store.configureInitialOffer (s : Store) (price : Option Nat) (maxSeats : Option UInt32)
    (now : Int) (fresh : OfferEpoch) : Tx (Except DbError Unit) :=
  if s.stage ≠ .initialOffer then
    { store := s, answer := .error (.wrongOnboardingStage .initialOffer s.stage) }
  else
    let active := u32OrMax s.seats.activeCount
    match maxSeats.filter (fun requested => decide (requested.toNat < active)) with
    | some requested => { store := s, answer := .error (.seatLimitBelowActive requested.toNat active) }
    | none =>
      { store := { s with
          offer := { s.offer with
            priceMsats := price, maxSeats := maxSeats, updatedAtMs := some now, offerEpoch := fresh }
          stage := .complete }
        drawn := [fresh]
        answer := .ok () }

/-- One change to what limits admission; `none` keeps the stored value and `some none` makes the
operator's limit automatic. -/
structure SeatsConfigUpdate where
  maxSeats : Option (Option UInt32) := none
  memoryMaxSeats : Option UInt32 := none
  policyMaxSeats : Option UInt32 := none
  readyForNewSeats : Option Bool := none

def SeatsConfigUpdate.apply (u : SeatsConfigUpdate) (before : SeatsConfig) : SeatsConfig where
  maxSeats := u.maxSeats.getD before.maxSeats
  memoryMaxSeats := u.memoryMaxSeats.getD before.memoryMaxSeats
  policyMaxSeats := u.policyMaxSeats.getD before.policyMaxSeats
  readyForNewSeats := u.readyForNewSeats.getD before.readyForNewSeats

def SeatsConfigUpdate.belowActive (u : SeatsConfigUpdate) (active : Nat) : Option UInt32 :=
  u.maxSeats.join.filter (fun requested => decide (requested.toNat < active))

def rotatesEpoch (before after : SeatsConfig) (first : PortBase) (seats : SeatTable) : Bool :=
  after.maxSeats != before.maxSeats || after.readyForNewSeats != before.readyForNewSeats ||
    (decide (0 < before.slots first seats) && decide (after.slots first seats = 0))

def Store.updateSeatsConfig (s : Store) (u : SeatsConfigUpdate) (first : PortBase) (now : Int)
    (fresh : OfferEpoch) : Tx (Except DbError Bool) :=
  let before := s.offer.seatsConfig
  let after := u.apply before
  let active := u32OrMax s.seats.activeCount
  match u.belowActive active with
  | some requested => { store := s, answer := .error (.seatLimitBelowActive requested.toNat active) }
  | none =>
    if after = before then { store := s, answer := .ok false }
    else
      let rotate := rotatesEpoch before after first s.seats
      { store := { s with offer := { s.offer with
          maxSeats := after.maxSeats
          memoryMaxSeats := after.memoryMaxSeats
          policyMaxSeats := after.policyMaxSeats
          readyForNewSeats := after.readyForNewSeats
          updatedAtMs := if after.maxSeats ≠ before.maxSeats then some now else s.offer.updatedAtMs
          offerEpoch := if rotate then fresh else s.offer.offerEpoch } }
        drawn := if rotate then [fresh] else []
        answer := .ok true }

/-- A repeated member breaks the primary key, and the transaction rolls back. -/
def Store.replaceSetupPaymentPolicy (s : Store) (eventJson : String) (memberIds : List FederationId)
    (fresh : OfferEpoch) : Tx (Except DbError Unit) :=
  if memberIds.Nodup then
    let removedAny := s.members.any (fun previous => !memberIds.contains previous)
    { store := { s with
        setupPaymentEvent := some eventJson
        members := memberIds
        offer := { s.offer with offerEpoch := if removedAny then fresh else s.offer.offerEpoch } }
      drawn := if removedAny then [fresh] else []
      answer := .ok () }
  else { store := s, answer := .error (.constraint "setup_payment_federation_members") }

/-! ## Admission -/

structure NewSeat where
  seatId : QuoteId
  faId : FaId
  plan : Plan
  federationSize : Nat
  payment : Option (List UInt8)

def NewSeat.facts (n : NewSeat) (seatNo : Nat) (now : Int) : SeatFacts where
  seatId := n.seatId
  seatNo := seatNo
  faId := n.faId
  plan := n.plan
  federationSize := n.federationSize
  createdAtMs := now

def NewSeat.rows (n : NewSeat) (seatNo : Nat) (now : Int) : SeatRows where
  facts := n.facts seatNo now
  claim := n.payment.map (fun evidence => { evidence := evidence })

inductive SeatAdmissionResult where
  | inserted (facts : SeatFacts)
  | existing (facts : SeatFacts)
  | offerChanged
deriving DecidableEq

def Store.admissionSnapshot (s : Store) (seatId : QuoteId) : Option SeatFacts × OfferEpoch :=
  ((s.seats.find? seatId).map (·.facts), s.offer.offerEpoch)

/-- How the writer transaction of an admission ends. A failed assertion unwinds the call and rolls
the transaction back. -/
inductive WriterOutcome where
  | result (r : SeatAdmissionResult)
  | assertionFailed
  | failed (e : DbError)

def Store.admitSeatAtWriterBoundary (s : Store) (newSeat : NewSeat) (offerEpoch : OfferEpoch)
    (first : PortBase) (now : Int) (fresh : OfferEpoch) : Tx WriterOutcome :=
  match (s.seats.find? newSeat.seatId).map (·.facts) with
  | some facts => { store := s, answer := .result (.existing facts) }
  | none =>
    if s.offer.offerEpoch ≠ offerEpoch then { store := s, answer := .result .offerChanged }
    else
      let slots := s.slots first
      let nextNo := s.seats.nextNo
      if slots = 0 then { store := s, answer := .assertionFailed }
      else
        match s.seats.insert (newSeat.rows nextNo now) with
        | none => { store := s, answer := .failed (.constraint "seats") }
        | some seats =>
          { store := { s with
              seats := seats
              offer := { s.offer with offerEpoch := if slots = 1 then fresh else s.offer.offerEpoch } }
            drawn := if slots = 1 then [fresh] else []
            answer := .result (.inserted (newSeat.facts nextNo now)) }

/-! ## Seat writers -/

def Store.onSeat {α : Type} (s : Store) (seatId : QuoteId) (missing : α)
    (f : SeatRows → SeatRows × α) : Tx α :=
  match s.seats.find? seatId with
  | none => { store := s, answer := missing }
  | some r =>
    { store := { s with seats := s.seats.modify seatId (fun r => (f r).1) }, answer := (f r).2 }

def Store.decommissionSeat (s : Store) (seatId : QuoteId) (now : Int) : Tx (Except DbError Int) :=
  s.onSeat seatId (.error (.constraint "decommissioned_seats")) (·.decommission now)

def Store.recordFormed (s : Store) (seatId : QuoteId) (invite : InviteCode) (now : Int) : Tx (Except DbError Int) :=
  s.onSeat seatId (.error (.constraint "formed_seats")) (·.recordFormed invite now)

def Store.retireForTransfer (s : Store) (seatId : QuoteId) : Tx Bool :=
  s.onSeat seatId false SeatRows.retireForTransfer

def Store.recordTransferRemoval (s : Store) (seatId : QuoteId) : Tx Bool :=
  s.onSeat seatId false SeatRows.recordTransferRemoval

end Manifold.Guardian
