import Manifold.Guardian.Facts

/-!
# The rows of one seat

`crates/mg/core/src/db/seats.rs` and `db/transfers.rs`. The codecs of the columns are taken as exact.
-/

namespace Manifold.Guardian

abbrev GuardianCode := String
abbrev ServicePubkey := BitVec 256

inductive OnboardingStage where
  | identity
  | holderAuthorization
  | initialOffer
  | complete
deriving DecidableEq

inductive DbError where
  | seatLimitBelowActive (requested active : Nat)
  | wrongOnboardingStage (expected actual : OnboardingStage)
  | corruptRow (table : String)
  | constraint (table : String)
  | sqlite

inductive ClaimOutcome where
  | success
  | alreadySpent
deriving DecidableEq

structure EcashClaim where
  evidence : List UInt8
  outcome : Option (ClaimOutcome × Int) := none
deriving DecidableEq

structure FormedSeat where
  federationInvite : InviteCode
  formedAtMs : Int
deriving DecidableEq

/-! ## Transfers -/

structure Locator where
  endpointAddr : String
  servicePubkey : ServicePubkey
deriving DecidableEq

structure SeatTransferGrant where
  ts : Nat
  faId : FaId
  federationId : FederationId
  source : Locator
  sourceSeatId : QuoteId
  destinationServicePubkey : ServicePubkey
  destinationSeatId : QuoteId
deriving DecidableEq

structure SignedGrant where
  grant : SeatTransferGrant
  signature : List UInt8
deriving DecidableEq

def freshnessWindowSecs : Nat := 60 * 60

def SeatTransferGrant.isValidAt (g : SeatTransferGrant) (now : Nat) : Bool :=
  decide (g.ts ≤ now + freshnessWindowSecs)

structure TransferMove where
  faId : FaId
  federationId : FederationId
  source : Locator
  sourceSeatId : QuoteId
  destinationServicePubkey : ServicePubkey
  destinationSeatId : QuoteId
deriving DecidableEq

def TransferMove.ofGrant (g : SeatTransferGrant) : TransferMove where
  faId := g.faId
  federationId := g.federationId
  source := g.source
  sourceSeatId := g.sourceSeatId
  destinationServicePubkey := g.destinationServicePubkey
  destinationSeatId := g.destinationSeatId

structure ImportedKeys where
  irohApi : BitVec 256
  irohP2p : BitVec 256
deriving DecidableEq

/-- A waiting row holds the live grant, an accepted row only the secrets. -/
inductive IncomingState where
  | waiting (grant : SignedGrant)
  | imported (keys : ImportedKeys)
deriving DecidableEq

structure IncomingTransfer where
  binding : TransferMove
  callbackCommitment : Option (BitVec 256)
  state : IncomingState
deriving DecidableEq

def IncomingTransfer.accepted (t : IncomingTransfer) : Option ImportedKeys :=
  match t.state with
  | .waiting _ => none
  | .imported keys => some keys

/-- The permanent fence of a transfer source (`seat_transfer_out.phase`). -/
inductive OutgoingTransfer where
  | stopped
  | removed
deriving DecidableEq

inductive TransferPhase where
  | waiting
  | imported
  | outgoing (phase : OutgoingTransfer)
deriving DecidableEq

def IncomingTransfer.phase (t : IncomingTransfer) : TransferPhase :=
  match t.state with
  | .waiting _ => .waiting
  | .imported _ => .imported

/-! ## The rows -/

structure SeatBackupPublication where
  docSha256 : String
  publishedAtMs : Int
  archiveDigest : Option String
  confirmedOutgoing : Option OutgoingTransfer
  schemaVersion : Nat
deriving DecidableEq

structure SeatRows where
  facts : SeatFacts
  claim : Option EcashClaim := none
  decommissionedAtMs : Option Int := none
  formed : Option FormedSeat := none
  dkgInputs : Option (List GuardianCode) := none
  transferIn : Option IncomingTransfer := none
  transferOut : Option OutgoingTransfer := none
  publication : Option SeatBackupPublication := none
deriving DecidableEq

namespace SeatRows

def active (r : SeatRows) : Bool :=
  r.decommissionedAtMs.isNone && r.transferOut.isNone

def isRetired (r : SeatRows) : Bool := !r.active

def decommission (r : SeatRows) (now : Int) : SeatRows × Except DbError Int :=
  if r.decommissionedAtMs.isSome then (r, .error (.constraint "decommissioned_seats"))
  else ({ r with decommissionedAtMs := some now }, .ok now)

def recordClaimOutcome (r : SeatRows) (outcome : ClaimOutcome) (now : Int) : SeatRows × Except DbError Int :=
  match r.claim with
  | some { evidence, outcome := none } =>
    ({ r with claim := some { evidence := evidence, outcome := some (outcome, now) } }, .ok now)
  | _ => (r, .error (.corruptRow "ecash_claims"))

/-- `INSERT OR IGNORE INTO formed_seats`, then the stored invite must be the given one. -/
def recordFormed (r : SeatRows) (invite : InviteCode) (now : Int) : SeatRows × Except DbError Int :=
  match r.formed with
  | some f =>
    (r, if f.federationInvite ≠ invite then .error (.corruptRow "formed_seats")
      else .ok f.formedAtMs)
  | none => ({ r with formed := some ⟨invite, now⟩ }, .ok now)

/-- Replaces the envelope of a seat that is neither formed nor decommissioned; triggers abort for a seat of a
transfer. -/
def recordDkgInputs (r : SeatRows) (codes : List GuardianCode) : SeatRows × Except DbError Unit :=
  if r.formed.isNone && r.decommissionedAtMs.isNone then
    if r.transferIn.isSome || r.transferOut.isSome then (r, .error (.constraint "dkg_inputs"))
    else ({ r with dkgInputs := some codes }, .ok ())
  else (r, .error (.corruptRow "dkg_inputs"))

def storedDkgInputs (r : SeatRows) : Option (List GuardianCode) :=
  if r.formed.isNone && r.decommissionedAtMs.isNone then r.dkgInputs else none

def admitTransfer (r : SeatRows) (signed : SignedGrant) (verified : Option SeatTransferGrant)
    (callbackCommitment : Option (BitVec 256)) (federationAvailable : Except DbError Bool) :
    SeatRows × Except DbError (Option IncomingTransfer) :=
  match verified with
  | none => (r, .ok none)
  | some grant =>
    if r.facts.seatId ≠ grant.destinationSeatId ∨ r.facts.faId ≠ grant.faId ∨ r.isRetired then
      (r, .ok none)
    else
      let binding := TransferMove.ofGrant grant
      match r.transferIn with
      | some previous =>
        if previous.callbackCommitment ≠ callbackCommitment ∨ previous.binding ≠ binding then
          (r, .ok none)
        else (r, .ok (some previous))
      | none =>
        if r.formed.isSome || r.dkgInputs.isSome then (r, .ok none)
        else
          match federationAvailable with
          | .error e => (r, .error e)
          | .ok false => (r, .ok none)
          | .ok true =>
            let record : IncomingTransfer := ⟨binding, callbackCommitment, .waiting signed⟩
            ({ r with transferIn := some record }, .ok (some record))

def acceptTransfer (r : SeatRows) (binding : TransferMove) (keys : ImportedKeys)
    (invite : InviteCode) (now : Int) : SeatRows × Except DbError Bool :=
  match r.transferIn with
  | none => (r, .ok false)
  | some record =>
    match record.state with
    | .imported _ => (r, .ok false)
    | .waiting _ =>
      if record.binding ≠ binding ∨ r.isRetired then (r, .ok false)
      else if r.formed.isSome then (r, .error (.constraint "formed_seats"))
      else
        ({ r with
            transferIn := some { record with state := .imported keys }
            formed := some ⟨invite, now⟩ }, .ok true)

def canRetire (r : SeatRows) : Bool :=
  r.formed.isSome && r.decommissionedAtMs.isNone && r.transferIn.all (·.accepted.isSome) &&
    r.transferOut.isNone

def retireForTransfer (r : SeatRows) : SeatRows × Bool :=
  if r.canRetire then ({ r with transferOut := some .stopped }, true) else (r, false)

def recordTransferRemoval (r : SeatRows) : SeatRows × Bool :=
  if r.transferOut = some .stopped then ({ r with transferOut := some .removed, transferIn := none }, true)
  else (r, false)

def backupPublication (r : SeatRows) (schemaVersion : Nat) : Option SeatBackupPublication :=
  r.publication.filter (fun p => p.schemaVersion == schemaVersion)

def recordBackupPublication (r : SeatRows) (docSha256 : String) (archiveDigest : Option String)
    (confirmedOutgoing : Option OutgoingTransfer) (schemaVersion : Nat) (now : Int) : SeatRows :=
  { r with publication := some ⟨docSha256, now, archiveDigest, confirmedOutgoing, schemaVersion⟩ }

end SeatRows

end Manifold.Guardian
