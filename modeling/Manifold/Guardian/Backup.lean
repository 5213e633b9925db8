import Manifold.Guardian.SeatRows

/-!
# Recovery documents

`crates/mg/core/src/backup.rs`, `restore.rs`, `Db::install_restored_fleet`. Hashes and the parsing of invites are
parameters.
-/

namespace Manifold.Guardian

structure GuardianArchive where
  privateJson : String
  localJson : String
  consensusJson : String
deriving DecidableEq

structure GuardianArchiveRef where
  archiveSha256 : String
  federationInvite : Option InviteCode
deriving DecidableEq

structure IncomingTransferBackup where
  binding : TransferMove
  keys : ImportedKeys
  callbackCommitment : Option (BitVec 256)
deriving DecidableEq

structure OutgoingTransferBackup where
  phase : OutgoingTransfer
  federationInvite : InviteCode
deriving DecidableEq

structure TransferBackup where
  incoming : Option IncomingTransferBackup
  outgoing : Option OutgoingTransferBackup
deriving DecidableEq

structure SeatBackupDocument where
  seatId : QuoteId
  faId : FaId
  plan : Plan
  federationSize : Nat
  createdAtMs : Int
  payment : Option (List UInt8)
  guardian : Option GuardianArchiveRef
  decommissionedAtMs : Option Int
  transfer : Option TransferBackup := none
deriving DecidableEq

structure Codec where
  archiveDigest : GuardianArchive → String
  docSha256 : SeatBackupDocument → String
  federationId : InviteCode → Option FederationId

namespace SeatBackupDocument

def new (facts : SeatFacts) (payment : Option (List UInt8)) (guardian : Option GuardianArchiveRef)
    (decommissionedAtMs : Option Int) : SeatBackupDocument where
  seatId := facts.seatId
  faId := facts.faId
  plan := facts.plan
  federationSize := facts.federationSize
  createdAtMs := facts.createdAtMs
  payment := payment
  guardian := guardian
  decommissionedAtMs := decommissionedAtMs

def outgoingTransfer (d : SeatBackupDocument) : Option OutgoingTransfer := do
  let transfer ← d.transfer
  let outgoing ← transfer.outgoing
  return outgoing.phase

def ensure (c : Bool) (message : String) : Except String Unit :=
  if c then .ok () else .error message

def validateOutgoing (d : SeatBackupDocument) (transfer : TransferBackup)
    (outgoing : OutgoingTransferBackup) : Except String Unit := do
  ensure ((outgoing.phase == .removed) == d.guardian.isNone) "transfer retirement archive mismatch"
  match d.guardian with
  | some guardian =>
    ensure (guardian.federationInvite == some outgoing.federationInvite)
      "transfer retirement invite mismatch"
  | none => pure ()
  ensure (outgoing.phase != .removed || transfer.incoming.isNone)
    "removed guardian retains imported secrets"

def validateIncoming (codec : Codec) (d : SeatBackupDocument) (incoming : IncomingTransferBackup) :
    Except String Unit := do
  match d.guardian.bind (·.federationInvite) with
  | none => throw "accepted transfer lacks guardian identity"
  | some invite =>
    match codec.federationId invite with
    | none => throw "invalid imported federation invite"
    | some federation =>
      ensure (federation == incoming.binding.federationId) "imported federation identity mismatch"
  ensure (incoming.binding.faId == d.faId && incoming.binding.destinationSeatId == d.seatId)
    "incoming transfer seat ownership mismatch"

def validateTransfer (codec : Codec) (d : SeatBackupDocument) : Except String Unit :=
  match d.transfer with
  | none => .ok ()
  | some transfer => do
      ensure (transfer.incoming.isSome || transfer.outgoing.isSome) "empty transfer recovery facts"
      match transfer.outgoing with
      | some outgoing => d.validateOutgoing transfer outgoing
      | none => pure ()
      match transfer.incoming with
      | some incoming => d.validateIncoming codec incoming
      | none => pure ()

def toSeatFacts (d : SeatBackupDocument) (seatNo : Nat) : SeatFacts where
  seatId := d.seatId
  seatNo := seatNo
  faId := d.faId
  plan := d.plan
  federationSize := d.federationSize
  createdAtMs := d.createdAtMs

end SeatBackupDocument

/-! ## Assembling a publication -/

structure SeatRecoveryFacts where
  payment : Option (List UInt8)
  incoming : Option IncomingTransfer
  outgoing : Option OutgoingTransfer
  formedInvite : Option InviteCode
  decommissionedAtMs : Option Int

def SeatRows.seatRecoveryFacts (r : SeatRows) : SeatRecoveryFacts where
  payment := r.claim.map (·.evidence)
  incoming := r.transferIn
  outgoing := r.transferOut
  formedInvite := r.formed.map (·.federationInvite)
  decommissionedAtMs := r.decommissionedAtMs

structure SeatPublication where
  document : SeatBackupDocument
  archive : Option GuardianArchive
deriving DecidableEq

def SeatPublication.archiveDigest (p : SeatPublication) : Option String :=
  p.document.guardian.map (·.archiveSha256)

/-- The plan has to read the archive: the seat is formed, not removed, and no digest is confirmed. -/
def SeatRecoveryFacts.readsArchive (f : SeatRecoveryFacts) (confirmedDigest : Option String) : Bool :=
  f.outgoing != some .removed && confirmedDigest.isNone && f.formedInvite.isSome

/-- The archive to publish and the digest the document names, with the archive read if it had to
be. -/
def SeatRecoveryFacts.archivePart (codec : Codec) (f : SeatRecoveryFacts)
    (confirmedDigest : Option String) (read : Option GuardianArchive) :
    Except String (Option GuardianArchive × Option String) :=
  if f.outgoing = some .removed then .ok (none, none)
  else
    match confirmedDigest with
    | some digest => .ok (none, some digest)
    | none =>
      if f.formedInvite.isNone then .ok (none, none)
      else
        match read with
        | none => .error "consensus has run but this seat has no guardian archive to back up"
        | some archive => .ok (some archive, some (codec.archiveDigest archive))

def SeatRecoveryFacts.acceptedBackup (f : SeatRecoveryFacts) : Option IncomingTransferBackup := do
  let incoming ← f.incoming
  if f.outgoing = some .removed then none
  else do
    let keys ← incoming.accepted
    return ⟨incoming.binding, keys, incoming.callbackCommitment⟩

def SeatRecoveryFacts.outgoingBackup (f : SeatRecoveryFacts) : Except String (Option OutgoingTransferBackup) :=
  match f.outgoing with
  | none => .ok none
  | some phase =>
    match f.formedInvite with
    | some invite => .ok (some ⟨phase, invite⟩)
    | none => .error "retired source lacks formed identity"

def SeatRecoveryFacts.transferBackup (f : SeatRecoveryFacts) : Except String (Option TransferBackup) :=
  if f.acceptedBackup.isSome || f.outgoing.isSome then
    f.outgoingBackup.map (fun outgoing => some ⟨f.acceptedBackup, outgoing⟩)
  else .ok none

theorem SeatRecoveryFacts.transferBackup_eq {f : SeatRecoveryFacts} {t : Option TransferBackup}
    (h : f.transferBackup = .ok t) :
    t.bind (·.incoming) = f.acceptedBackup ∧
      ((t.bind (·.outgoing) = none ∧ f.outgoing = none) ∨
        ∃ phase invite, t.bind (·.outgoing) = some ⟨phase, invite⟩ ∧ f.outgoing = some phase ∧
          f.formedInvite = some invite) := by
  unfold transferBackup at h
  split at h
  · cases ho : f.outgoingBackup with
    | error e => rw [ho] at h; cases h
    | ok o =>
      rw [ho] at h
      cases h
      refine ⟨rfl, ?_⟩
      unfold outgoingBackup at ho
      split at ho
      · cases ho
        exact .inl ⟨rfl, ‹_›⟩
      rename_i phase hphase
      split at ho
      · rename_i invite hinvite
        cases ho
        exact .inr ⟨phase, invite, rfl, hphase, hinvite⟩
      · cases ho
  rename_i hne
  cases h
  simp only [Bool.or_eq_true, not_or, Bool.not_eq_true, Option.isSome_eq_false_iff, Option.isNone_iff_eq_none] at hne
  exact ⟨hne.1.symm, .inl ⟨rfl, hne.2⟩⟩

def SeatRecoveryFacts.plan (codec : Codec) (facts : SeatFacts) (f : SeatRecoveryFacts)
    (confirmedDigest : Option String) (read : Option GuardianArchive) :
    Except String SeatPublication := do
  let (archive, archiveSha256) ← f.archivePart codec confirmedDigest read
  let guardian := archiveSha256.map (fun digest => (⟨digest, f.formedInvite⟩ : GuardianArchiveRef))
  let transfer ← f.transferBackup
  let document :=
    { SeatBackupDocument.new facts f.payment guardian f.decommissionedAtMs with transfer := transfer }
  document.validateTransfer codec
  return ⟨document, archive⟩

/-! ## Restoring a document -/

def SeatBackupDocument.restoredRows (d : SeatBackupDocument) (seatNo : Nat) (now : Int) : Except DbError SeatRows :=
  let outgoing := d.transfer.bind (·.outgoing)
  let rows : SeatRows :=
    { facts := d.toSeatFacts seatNo
      claim := d.payment.map (fun evidence => { evidence := evidence })
      decommissionedAtMs := d.decommissionedAtMs
      transferIn := (d.transfer.bind (·.incoming)).map (fun incoming =>
        ⟨incoming.binding, incoming.callbackCommitment, .imported incoming.keys⟩)
      transferOut := outgoing.map (·.phase) }
  if d.guardian.isSome || outgoing.isSome then
    match (d.guardian.bind (·.federationInvite)).or (outgoing.map (·.federationInvite)) with
    | some invite => .ok { rows with formed := some ⟨invite, now⟩ }
    | none => .error (.corruptRow "backup_guardians")
  else .ok rows

def SeatBackupDocument.checkDestination (servicePubkey : ServicePubkey) (d : SeatBackupDocument) : Except String Unit :=
  match d.transfer.bind (·.incoming) with
  | some incoming =>
    SeatBackupDocument.ensure (incoming.binding.destinationServicePubkey == servicePubkey)
      "restored transfer names another destination"
  | none => .ok ()

/-- What `restore::install` accepts and installs for one document of the restoring identity. -/
def SeatBackupDocument.install (codec : Codec) (servicePubkey : ServicePubkey) (d : SeatBackupDocument)
    (seatNo : Nat) (now : Int) : Except String SeatRows := do
  d.validateTransfer codec
  d.checkDestination servicePubkey
  (d.restoredRows seatNo now).mapError (fun _ => "guardian archive has no formed federation invite")

end Manifold.Guardian
