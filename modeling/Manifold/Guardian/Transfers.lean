import Mathlib.Logic.Relation
import Manifold.Guardian.Store
import Manifold.Guardian.Backup

/-!
# Transfers and restored fleets in the store

`crates/mg/core/src/db/transfers.rs` and `Db::install_restored_fleet`.
-/

namespace Manifold.Guardian

/-! ## Admission and acceptance -/

def formedFor (codec : Codec) (federation : FederationId) : List InviteCode → Except DbError Bool
  | [] => .ok false
  | invite :: rest =>
    match codec.federationId invite with
    | none => .error (.corruptRow "seat_transfer_in")
    | some f => if f = federation then .ok true else formedFor codec federation rest

/-- `federation_available`: no other seat that is neither decommissioned nor retired is formed for the
federation or bound to it. -/
def Store.federationAvailable (codec : Codec) (s : Store) (seatId : QuoteId) (binding : TransferMove) :
    Except DbError Bool :=
  let others := s.seats.rows.filter (fun r => r.facts.seatId != seatId && r.active)
  match formedFor codec binding.federationId (others.filterMap (fun r => r.formed.map (·.federationInvite))) with
  | .error e => .error e
  | .ok true => .ok false
  | .ok false =>
    .ok (!(others.filterMap (·.transferIn)).any (fun t => t.binding.federationId == binding.federationId))

/-- `verified` is the grant if its signature and time were accepted. -/
def Store.admitTransfer (codec : Codec) (s : Store) (signed : SignedGrant) (verified : Option SeatTransferGrant)
    (callbackCommitment : Option (BitVec 256)) : Tx (Except DbError (Option IncomingTransfer)) :=
  match verified with
  | none => { store := s, answer := .ok none }
  | some grant =>
    s.onSeat grant.destinationSeatId (.ok none) (fun r =>
      r.admitTransfer signed verified callbackCommitment
        (s.federationAvailable codec grant.destinationSeatId (TransferMove.ofGrant grant)))

def Store.acceptTransfer (s : Store) (seatId : QuoteId) (binding : TransferMove) (keys : ImportedKeys)
    (invite : InviteCode) (now : Int) : Tx (Except DbError Bool) :=
  s.onSeat seatId (.ok false) (·.acceptTransfer binding keys invite now)

def Store.recordDkgInputs (s : Store) (seatId : QuoteId) (codes : List GuardianCode) : Tx (Except DbError Unit) :=
  s.onSeat seatId (.error (.constraint "dkg_inputs")) (·.recordDkgInputs codes)

/-! ## Claims and publications -/

def Store.recordClaimOutcome (s : Store) (seatId : QuoteId) (outcome : ClaimOutcome) (now : Int) :
    Tx (Except DbError Int) :=
  s.onSeat seatId (.error (.corruptRow "ecash_claims")) (·.recordClaimOutcome outcome now)

def Store.recordBackupPublication (s : Store) (seatId : QuoteId) (docSha256 : String)
    (archiveDigest : Option String) (confirmedOutgoing : Option OutgoingTransfer) (schemaVersion : Nat)
    (now : Int) : Tx (Except DbError Unit) :=
  s.onSeat seatId (.error (.constraint "seat_backup_publications")) (fun r =>
    (r.recordBackupPublication docSha256 archiveDigest confirmedOutgoing schemaVersion now, .ok ()))

/-! ## Restored fleets -/

structure RestoredSeat where
  seatNo : Nat
  document : SeatBackupDocument
  now : Int

def SeatTable.insertRestored (t : SeatTable) (seat : RestoredSeat) : Except DbError SeatTable := do
  let rows ← seat.document.restoredRows seat.seatNo seat.now
  match t.insert rows with
  | some t' => .ok t'
  | none => .error (.constraint "seats")

def SeatTable.insertFleet (t : SeatTable) (fleet : List RestoredSeat) : Except DbError SeatTable :=
  fleet.foldlM SeatTable.insertRestored t

def Store.installRestoredFleet (s : Store) (fleet : List RestoredSeat) : Tx (Except DbError Unit) :=
  if s.stage ≠ .identity then { store := s, answer := .error (.wrongOnboardingStage .identity s.stage) }
  else
    match s.seats.insertFleet fleet with
    | .error e => { store := s, answer := .error e }
    | .ok seats => { store := { s with seats := seats, stage := .holderAuthorization }, answer := .ok () }

/-- What a restore keeps of a seat: not its ordinal, its claim's outcome, ceremony inputs, a waiting transfer, or
what was published. -/
def SeatRows.survives (r : SeatRows) (seatNo : Nat) (now : Int) : SeatRows where
  facts := { r.facts with seatNo := seatNo }
  claim := r.claim.map (fun c => { evidence := c.evidence })
  decommissionedAtMs := r.decommissionedAtMs
  formed := r.formed.map (fun f => ⟨f.federationInvite, now⟩)
  transferIn := r.transferIn.filter (·.accepted.isSome)
  transferOut := r.transferOut

/-! ## Hosts -/

def SeatRows.Concerns (codec : Codec) (federation : FederationId) (r : SeatRows) : Prop :=
  (∃ f, r.formed = some f ∧ codec.federationId f.federationInvite = some federation) ∨
    ∃ t, r.transferIn = some t ∧ t.binding.federationId = federation

/-- No other seat of the store has the federation of the invite; a seat that is formed reports the invite it has. -/
def Store.NativeFederation (codec : Codec) (s : Store) (seatId : QuoteId) (invite : InviteCode) : Prop :=
  ∀ r ∈ s.seats.rows, r.facts.seatId = seatId → r.formed = none →
    ∀ federation, codec.federationId invite = some federation →
      ∀ r' ∈ s.seats.rows, r'.facts.seatId ≠ seatId → ¬ r'.Concerns codec federation

/-- One write of a host. A fleet is served, and admits seats, only when the host is onboarded. -/
inductive HostStep (codec : Codec) : Store → Store → Prop where
  | admitSeat (s : Store) (new : NewSeat) (epoch : OfferEpoch) (first : PortBase) (now : Int)
      (fresh : OfferEpoch) (hstage : s.stage = .complete) :
      HostStep codec s (s.admitSeatAtWriterBoundary new epoch first now fresh).store
  | recordDkgInputs (s : Store) (seatId : QuoteId) (codes : List GuardianCode) :
      HostStep codec s (s.recordDkgInputs seatId codes).store
  | recordFormed (s : Store) (seatId : QuoteId) (invite : InviteCode) (now : Int)
      (hnative : s.NativeFederation codec seatId invite) :
      HostStep codec s (s.recordFormed seatId invite now).store
  | admitTransfer (s : Store) (signed : SignedGrant) (verified : Option SeatTransferGrant)
      (callbackCommitment : Option (BitVec 256)) :
      HostStep codec s (s.admitTransfer codec signed verified callbackCommitment).store
  | acceptTransfer (s : Store) (seatId : QuoteId) (binding : TransferMove) (keys : ImportedKeys)
      (invite : InviteCode) (now : Int) (hinvite : codec.federationId invite = some binding.federationId) :
      HostStep codec s (s.acceptTransfer seatId binding keys invite now).store
  | retireForTransfer (s : Store) (seatId : QuoteId) : HostStep codec s (s.retireForTransfer seatId).store
  | recordTransferRemoval (s : Store) (seatId : QuoteId) : HostStep codec s (s.recordTransferRemoval seatId).store
  | decommissionSeat (s : Store) (seatId : QuoteId) (now : Int) : HostStep codec s (s.decommissionSeat seatId now).store
  | recordClaimOutcome (s : Store) (seatId : QuoteId) (outcome : ClaimOutcome) (now : Int) :
      HostStep codec s (s.recordClaimOutcome seatId outcome now).store
  | recordBackupPublication (s : Store) (seatId : QuoteId) (docSha256 : String) (archiveDigest : Option String)
      (confirmedOutgoing : Option OutgoingTransfer) (schemaVersion : Nat) (now : Int) :
      HostStep codec s (s.recordBackupPublication seatId docSha256 archiveDigest confirmedOutgoing schemaVersion
        now).store
  /-- Onboarding and the offer: no seat is touched, and the identity is chosen once. -/
  | elsewhere (s t : Store) (hseats : t.seats = s.seats) (hstage : t.stage = .identity → s.stage = .identity) :
      HostStep codec s t

/-- One that `seat_publication_plan` assembles for a seat of the store, with any confirmed digest and any archive. -/
def Published (codec : Codec) (s : Store) (d : SeatBackupDocument) : Prop :=
  ∃ r ∈ s.seats.rows, ∃ digest read p, r.seatRecoveryFacts.plan codec r.facts digest read = .ok p ∧ p.document = d

/-- The stores that hosts can come to hold: from an empty one by writes, and by restores of fleets that
were published from such a store. -/
inductive Reachable (codec : Codec) : Store → Prop where
  | fresh (s : Store) (hseats : s.seats = .empty) (hstage : s.stage = .identity) : Reachable codec s
  | write {s t : Store} (h : Reachable codec s) (hs : HostStep codec s t) : Reachable codec t
  | restore {s source : Store} (fleet : List RestoredSeat) (h : Reachable codec s)
      (hsource : Reachable codec source) (hfleet : ∀ seat ∈ fleet, Published codec source seat.document) :
      Reachable codec (s.installRestoredFleet fleet).store

def StoreStep (codec : Codec) (s t : Store) : Prop :=
  HostStep codec s t ∨ ∃ source fleet, Reachable codec source ∧
    (∀ seat ∈ fleet, Published codec source seat.document) ∧ t = (s.installRestoredFleet fleet).store

/-! ## What a host keeps of its seats -/

def OnePerFederation (codec : Codec) (t : SeatTable) : Prop :=
  ∀ r ∈ t.rows, ∀ r' ∈ t.rows, r.active = true → r'.active = true →
    ∀ federation, r.Concerns codec federation → r'.Concerns codec federation → r.facts.seatId = r'.facts.seatId

structure Persists (r r' : SeatRows) : Prop where
  facts : r'.facts = r.facts
  formed : ∀ f, r.formed = some f → r'.formed = some f
  /-- An incoming transfer stays bound to its move and its callback; it goes only with a seat that is
  retired. -/
  bound : ∀ t, r.transferIn = some t →
    (∃ t', r'.transferIn = some t' ∧ t'.binding = t.binding ∧ t'.callbackCommitment = t.callbackCommitment) ∨
      (r'.transferIn = none ∧ r'.active = false)
  fence : ∀ p, r.transferOut = some p → r'.transferOut = some p ∨ (p = .stopped ∧ r'.transferOut = some .removed)
  retired : r.active = false → r'.active = false ∧ (r'.transferIn = r.transferIn ∨ r'.transferIn = none)

end Manifold.Guardian
