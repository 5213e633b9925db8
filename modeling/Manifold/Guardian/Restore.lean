import Mathlib.Data.List.Sort
import Manifold.Lib.Crash
import Manifold.Guardian.Transfers

/-!
# Installing a recovered fleet

`restore::install` (`crates/mg/core/src/restore.rs`). The file operations of `backup.rs` fail only where the files they
meet make them fail; flushing is left out.
-/

namespace Manifold.Guardian

/-! ## Archives as files -/

def localConfigFile : String := "local.json"
def consensusConfigFile : String := "consensus.json"
def privateConfigFile : String := "private.json"

def seatTransferMaterialMaxBytes : Nat := 384 * 1024

def GuardianArchive.checkSize (a : GuardianArchive) : Bool :=
  64 + a.privateJson.utf8ByteSize + a.localJson.utf8ByteSize + a.consensusJson.utf8ByteSize
    ≤ seatTransferMaterialMaxBytes

inductive Entry where
  | file (contents : String)
  | other

abbrev Dir := List (String × Entry)

def Dir.read (d : Dir) (name : String) : Option String :=
  match d.lookup name with
  | some (.file contents) => some contents
  | _ => none

def GuardianArchive.files (a : GuardianArchive) : Dir :=
  [(privateConfigFile, .file a.privateJson), (localConfigFile, .file a.localJson),
    (consensusConfigFile, .file a.consensusJson)]

namespace Restore

/-! ## The host -/

structure SeatRoot where
  others : List String := []
  data : Option Dir := none

def SeatRoot.entries (root : SeatRoot) : List String :=
  root.others ++ if root.data.isSome then ["data"] else []

/-- The data root of a host: `restore-staging` by seat number, and the seat directories. -/
structure Disk where
  staging : Option (List (Nat × Dir)) := none
  seats : Nat → Option SeatRoot := fun _ => none

namespace Disk

def data (d : Disk) (no : Nat) : Option Dir := (d.seats no).bind (·.data)

def setSeat (d : Disk) (no : Nat) (root : SeatRoot) : Disk :=
  { d with seats := fun n => if n = no then some root else d.seats n }

def staged (d : Disk) (no : Nat) : Option Dir := d.staging.bind (·.lookup no)

def setStaged (d : Disk) (no : Nat) (dir : Dir) : Disk :=
  { d with staging := some ((no, dir) :: (d.staging.getD []).filter (fun p => p.1 != no)) }

def createStaged (d : Disk) (no : Nat) : Disk := d.setStaged no ((d.staged no).getD [])

/-- `create_new` and the write; fails on an existing entry and in a missing directory. -/
def writeStaged (d : Disk) (no : Nat) (name contents : String) : Option Disk :=
  match d.staged no with
  | none => none
  | some dir =>
    if (dir.lookup name).isSome then none else some (d.setStaged no (dir ++ [(name, .file contents)]))

def createSeatRoot (d : Disk) (no : Nat) : Disk := d.setSeat no ((d.seats no).getD {})

def renameStaged (d : Disk) (no : Nat) : Option Disk :=
  match d.staged no, d.seats no with
  | some dir, some root =>
    if root.data.all List.isEmpty then
      some { d.setSeat no { root with data := some dir } with
        staging := d.staging.map (·.filter (fun p => p.1 != no)) }
    else none
  | _, _ => none

end Disk

structure RootMnemonic where
  phrase : String
  servicePubkey : ServicePubkey

structure Host where
  store : Store
  identity : Option String
  disk : Disk

def Host.restage (h : Host) (staging : Option (List (Nat × Dir))) : Host :=
  ⟨h.store, h.identity, ⟨staging, h.disk.seats⟩⟩

/-- `Db::install_restored_fleet` with the time of each seat's rows. A stored identity rolls the seats back. -/
def Host.installRestoredFleet (h : Host) (phrase : String) (seats : List (Nat × SeatBackupDocument))
    (clock : Nat → Int) : Host × Except DbError Unit :=
  let tx := h.store.installRestoredFleet (seats.map (fun s => ⟨s.1, s.2, clock s.1⟩))
  match tx.answer with
  | .error e => (h, .error e)
  | .ok () =>
    if h.identity.isSome then (h, .error (.constraint "identity"))
    else ({ h with store := tx.store, identity := some phrase }, .ok ())

/-! ## What an install asks -/

inductive Question where
  | loadIdentity
  | stagingExists
  | removeStaging
  | readSeatRoot (no : Nat)
  | dataExists (no : Nat)
  | readData (no : Nat)
  | readFile (no : Nat) (name : String)
  | createStaged (no : Nat)
  | writeStaged (no : Nat) (name contents : String)
  | createSeatRoot (no : Nat)
  | renameStaged (no : Nat)
  | installRestoredFleet (phrase : String) (seats : List (Nat × SeatBackupDocument))

abbrev Answer : Question → Type
  | .loadIdentity => Option String
  | .stagingExists => Bool
  | .removeStaging => Unit
  | .readSeatRoot _ => Option (List String)
  | .dataExists _ => Bool
  | .readData _ => List (String × Bool)
  | .readFile _ _ => Option String
  | .createStaged _ => Unit
  | .writeStaged _ _ _ => Bool
  | .createSeatRoot _ => Unit
  | .renameStaged _ => Bool
  | .installRestoredFleet _ _ => Except DbError Unit

def Entry.isFile : Entry → Bool
  | .file _ => true
  | .other => false

def Host.changed (h : Host) (d : Option Disk) : Bool × Host × List Empty :=
  match d with
  | some d => (true, { h with disk := d }, [])
  | none => (false, h, [])

def handler : Lib.Handler Answer Host (Nat → Int) Empty := fun e h clock =>
  match e with
  | .loadIdentity => some (h.identity, h, [])
  | .stagingExists => some (h.disk.staging.isSome, h, [])
  | .removeStaging => some ((), h.restage none, [])
  | .readSeatRoot no => some ((h.disk.seats no).map (·.entries), h, [])
  | .dataExists no => some ((h.disk.data no).isSome, h, [])
  | .readData no => some (((h.disk.data no).getD []).map (fun e => (e.1, Entry.isFile e.2)), h, [])
  | .readFile no name => some ((h.disk.data no).bind (·.read name), h, [])
  | .createStaged no => some ((), { h with disk := h.disk.createStaged no }, [])
  | .writeStaged no name contents => some (h.changed (h.disk.writeStaged no name contents))
  | .createSeatRoot no => some ((), { h with disk := h.disk.createSeatRoot no }, [])
  | .renameStaged no => some (h.changed (h.disk.renameStaged no))
  | .installRestoredFleet phrase seats =>
    let r := h.installRestoredFleet phrase seats clock
    some (r.2, r.1, [])

/-- A cut may tear what is done in the staging directory, and nothing else. -/
def torn : Question → Host → Host → Prop
  | .removeStaging, h, h' | .createStaged _, h, h' | .writeStaged _ _ _, h, h' =>
    ∃ staging, h' = h.restage staging
  | _, _, _ => False

/-! ## Errors -/

inductive RestoreConfigError where
  | archiveMismatch (expected found : String)
  | write

inductive RestoreError where
  | alreadyOnboarded
  | seatDirectoryExists (seatId : QuoteId)
  | missingArchive (seatId : QuoteId)
  | config (e : RestoreConfigError)
  | db (e : DbError)
  | other (message : String)

/-! ## The fleet -/

structure RecoveredFleet (codec : Codec) where
  seats : List SeatBackupDocument
  archives : QuoteId → Option GuardianArchive
  verified : ∀ seat ∈ seats, ∀ guardian, seat.guardian = some guardian →
    ∀ archive, archives seat.seatId = some archive → codec.archiveDigest archive = guardian.archiveSha256

def earlier (a b : SeatBackupDocument) : Prop :=
  a.createdAtMs < b.createdAtMs ∨ (a.createdAtMs = b.createdAtMs ∧ a.seatId.toNat ≤ b.seatId.toNat)

instance : DecidableRel earlier := fun a b => by unfold earlier; infer_instance

def numberFrom (no : Nat) : List SeatBackupDocument → List (Nat × SeatBackupDocument)
  | [] => []
  | seat :: rest => (no, seat) :: numberFrom (no + 1) rest

variable {codec : Codec}

def RecoveredFleet.numbered (fleet : RecoveredFleet codec) : List (Nat × SeatBackupDocument) :=
  numberFrom 0 (fleet.seats.insertionSort earlier)

/-- An accepted guardian brings its archive under the digest the document names, of a size that can be moved again,
and this identity as its destination. -/
def RecoveredFleet.checkAccepted (fleet : RecoveredFleet codec) (identity : RootMnemonic)
    (seat : SeatBackupDocument) : Except RestoreError Unit :=
  match seat.transfer.bind (·.incoming) with
  | none => .ok ()
  | some incoming =>
    match fleet.archives seat.seatId with
    | none => .error (.missingArchive seat.seatId)
    | some archive =>
      if some (codec.archiveDigest archive) ≠ seat.guardian.map (·.archiveSha256) then
        .error (.other "accepted transfer archive digest mismatch")
      else if !archive.checkSize then
        .error (.other "guardian transfer material exceeds its size limit")
      else if incoming.binding.destinationServicePubkey ≠ identity.servicePubkey then
        .error (.other "restored transfer names another destination")
      else .ok ()

def RecoveredFleet.checkSeats (fleet : RecoveredFleet codec) (identity : RootMnemonic) :
    List SeatBackupDocument → Except RestoreError Unit
  | [] => .ok ()
  | seat :: rest => do
      (seat.validateTransfer codec).mapError .other
      fleet.checkAccepted identity seat
      fleet.checkSeats identity rest

/-! ## The install -/

abbrev Install := Lib.Routine Answer Unit RestoreError

def ask (e : Question) : Install (Answer e) := Lib.Routine.ask e

def wipeStaging : Install Unit := do
  if ← ask .stagingExists then ask .removeStaging else pure ()

def seatRootHasUnexpectedEntries (no : Nat) : Install Bool := do
  match ← ask (.readSeatRoot no) with
  | none => pure false
  | some entries => pure (entries.any (· != "data"))

def archiveOf : Option String → Option String → Option String → Option GuardianArchive
  | some privateJson, some localJson, some consensusJson => some ⟨privateJson, localJson, consensusJson⟩
  | _, _, _ => none

def readGuardianArchive (no : Nat) : Install (Option GuardianArchive) := do
  let privateJson ← ask (.readFile no privateConfigFile)
  let localJson ← ask (.readFile no localConfigFile)
  let consensusJson ← ask (.readFile no consensusConfigFile)
  return archiveOf privateJson localJson consensusJson

def archiveShape (entries : List (String × Bool)) : Bool :=
  entries.all (·.2) &&
    (entries.map (·.1)).isPerm [privateConfigFile, localConfigFile, consensusConfigFile]

def isAdoptableRestoredSeatDir (codec : Codec) (no : Nat) (expectedDigest : String) : Install Bool := do
  let entries ← ask (.readData no)
  if archiveShape entries then do
    let archive ← readGuardianArchive no
    return archive.map codec.archiveDigest == some expectedDigest
  else return false

def RecoveredFleet.checkDestination (fleet : RecoveredFleet codec) (no : Nat) (seat : SeatBackupDocument) :
    Install Bool := do
  if ← seatRootHasUnexpectedEntries no then throw (.seatDirectoryExists seat.seatId)
  else do
    let present ← ask (.dataExists no)
    match seat.guardian with
    | none => if present then throw (.seatDirectoryExists seat.seatId) else return false
    | some guardian =>
      if present then do
        if ← isAdoptableRestoredSeatDir codec no guardian.archiveSha256 then return false
        else throw (.seatDirectoryExists seat.seatId)
      else if (fleet.archives seat.seatId).isNone then throw (.missingArchive seat.seatId)
      else return true

def RecoveredFleet.checkDestinations (fleet : RecoveredFleet codec) :
    List (Nat × SeatBackupDocument) → Install (List (Nat × SeatBackupDocument))
  | [] => return []
  | seat :: rest => do
      let write ← fleet.checkDestination seat.1 seat.2
      let more ← fleet.checkDestinations rest
      return if write then seat :: more else more

def orFail (succeeded : Bool) : Install Unit :=
  if succeeded then pure () else throw (.config .write)

def writeRestoredSeatDir (codec : Codec) (no : Nat) (archive : GuardianArchive) (expectedDigest : String) :
    Install Unit := do
  if codec.archiveDigest archive ≠ expectedDigest then
    throw (.config (.archiveMismatch expectedDigest (codec.archiveDigest archive)))
  else do
    ask (.createStaged no)
    orFail (← ask (.writeStaged no privateConfigFile archive.privateJson))
    orFail (← ask (.writeStaged no localConfigFile archive.localJson))
    orFail (← ask (.writeStaged no consensusConfigFile archive.consensusJson))

def moveIntoPlace (codec : Codec) (no : Nat) (archive : GuardianArchive) (expectedDigest : String) : Install Unit := do
  writeRestoredSeatDir codec no archive expectedDigest
  ask (.createSeatRoot no)
  orFail (← ask (.renameStaged no))

def RecoveredFleet.writeSeat (fleet : RecoveredFleet codec) (no : Nat) (seat : SeatBackupDocument) : Install Unit :=
  match seat.guardian, fleet.archives seat.seatId with
  | some guardian, some archive => moveIntoPlace codec no archive guardian.archiveSha256
  -- only formed seats with an archive are staged
  | _, _ => pure ()

def RecoveredFleet.writeSeats (fleet : RecoveredFleet codec) : List (Nat × SeatBackupDocument) → Install Unit
  | [] => pure ()
  | seat :: rest => do
      fleet.writeSeat seat.1 seat.2
      fleet.writeSeats rest

/-- The destination of every accepted guardian once more, while the rows are put together. -/
def checkDestinationKeys (identity : RootMnemonic) : List (Nat × SeatBackupDocument) → Except RestoreError Unit
  | [] => .ok ()
  | seat :: rest => do
      (seat.2.checkDestination identity.servicePubkey).mapError .other
      checkDestinationKeys identity rest

def install (fleet : RecoveredFleet codec) (identity : RootMnemonic) : Install Unit := do
  if (← ask .loadIdentity).isSome then throw .alreadyOnboarded
  else do
    Lib.Routine.ofExcept (fleet.checkSeats identity fleet.seats)
    wipeStaging
    let toWrite ← fleet.checkDestinations fleet.numbered
    fleet.writeSeats toWrite
    ask .removeStaging
    Lib.Routine.ofExcept (checkDestinationKeys identity fleet.numbered)
    let answer ← ask (.installRestoredFleet identity.phrase fleet.numbered)
    Lib.Routine.ofExcept (answer.mapError .db)

/-! ## Runs -/

def Uncut (fleet : RecoveredFleet codec) (identity : RootMnemonic) (h : Host)
    (answer : Except RestoreError Unit) (h' : Host) : Prop :=
  (install fleet identity ()).Ends handler h answer h'

def CutIn (fleet : RecoveredFleet codec) (identity : RootMnemonic) (h h' : Host) : Prop :=
  (install fleet identity ()).Cut handler torn h h'

/-! ## What is compared -/

def RecoveredFleet.files (fleet : RecoveredFleet codec) (no : Nat) : Option Dir := do
  let seat ← fleet.numbered.lookup no
  let _ ← seat.guardian
  (fleet.archives seat.seatId).map (·.files)

def Adoptable (codec : Codec) (dir : Dir) (expectedDigest : String) : Bool :=
  archiveShape (dir.map (fun e => (e.1, Entry.isFile e.2))) &&
    (archiveOf (dir.read privateConfigFile) (dir.read localConfigFile) (dir.read consensusConfigFile)).map
      codec.archiveDigest == some expectedDigest

def untimed (r : SeatRows) : SeatRows :=
  { r with formed := r.formed.map (fun f => { f with formedAtMs := 0 }) }

structure SameRows (s t : Store) : Prop where
  seats : s.seats.rows.map untimed = t.seats.rows.map untimed
  offer : s.offer = t.offer
  stage : s.stage = t.stage
  members : s.members = t.members
  setupPaymentEvent : s.setupPaymentEvent = t.setupPaymentEvent

end Restore

end Manifold.Guardian
