import Manifold.Lib.Task
import Manifold.Guardian.Backup

/-!
# What the seat loop and the backup worker ask of the outside

The seat's rows and the relay are the shared state; everything else answers as the outside chooses.
-/

namespace Manifold.Guardian.Seat

def sessionBoundaryExitCode : Int := 3

inductive ChildState where
  | needsParams
  | alreadyConfigured (inviteCode : InviteCode)
deriving DecidableEq

inductive DrivenDkgEvent where
  | configPersisted (inviteCode : InviteCode)
  | dkgStarted
  | paramsRejected (reason : String)
  | dkgFailed (reason : String)
  | consensusStarted
  | controlChannelRetired
deriving DecidableEq

/-- What the select on a live child returns. An exit has a code unless a signal ended the process. -/
inductive ProcessObservation where
  | driven (event : DrivenDkgEvent)
  | drivenError
  | drivenClosed
  | exited (statusCode : Option Int)
  | waitFailed
deriving DecidableEq

inductive SpawnResult where
  | started
  | failed
  | failedAfterFork
deriving DecidableEq

inductive PublishResult where
  | confirmed
  | landedUnconfirmed
  | lost

structure TransferMaterial where
  archive : GuardianArchive
  keys : ImportedKeys
deriving DecidableEq

inductive Ask where
  | clock
  | elapsed
  | nowSecs
  -- the database
  | formedFederationInvite
  | decommissionedAtMs
  | outgoingTransfer
  | incomingTransfer
  | backupPublication (schemaVersion : Nat)
  | retireForTransfer
  | recordTransferRemoval
  | admitTransfer (signed : SignedGrant) (verified : Option SeatTransferGrant)
      (callbackCommitment : Option (BitVec 256))
  | acceptTransfer (binding : TransferMove) (keys : ImportedKeys) (invite : InviteCode)
  | dkgInputs
  | recordDkgInputs (codes : List GuardianCode)
  | recordFormed (invite : InviteCode)
  | decommissionSeat
  | seatRecoveryFacts
  | recordBackupPublication (docSha256 : String) (archiveDigest : Option String)
      (confirmedOutgoing : Option OutgoingTransfer) (schemaVersion : Nat)
  -- the filesystem
  | dataDirExists
  | seatDirExists
  | readGuardianArchive
  | removeDataDir
  | removeStaging
  | writeStaging (archive : GuardianArchive)
  | renameStaging
  | syncSeatDir
  -- the child process and its API
  | startChild
  | drivenClient (pid : Nat)
  | stopChild (pid : Nat)
  | observe (pid : Nat)
  | pendingEvents
  | nextEvent
  | runDkg (codes : List GuardianCode)
  | probe
  | shutdownAfterCurrentSession
  -- the relay and the callers
  | publish (publication : SeatPublication) (schemaVersion : Nat)
  | replyMaterial (material : TransferMaterial)

/-- The answer to each question. `Except Unit` is a failure whose text nothing reads. -/
@[reducible] def Ans : Ask → Type
  | .clock => Lib.Fate
  | .elapsed => Bool
  | .nowSecs => Nat
  | .formedFederationInvite => Except DbError (Option InviteCode)
  | .decommissionedAtMs => Except DbError (Option Int)
  | .outgoingTransfer => Except DbError (Option OutgoingTransfer)
  | .incomingTransfer => Except DbError (Option IncomingTransfer)
  | .backupPublication _ => Except DbError (Option SeatBackupPublication)
  | .retireForTransfer => Except DbError Bool
  | .recordTransferRemoval => Except DbError Bool
  | .admitTransfer _ _ _ => Except DbError (Option IncomingTransfer)
  | .acceptTransfer _ _ _ => Except DbError Bool
  | .dkgInputs => Except DbError (Option (List GuardianCode))
  | .recordDkgInputs _ => Except DbError Unit
  | .recordFormed _ => Except DbError Int
  | .decommissionSeat => Except DbError Int
  | .seatRecoveryFacts => Except DbError SeatRecoveryFacts
  | .recordBackupPublication _ _ _ _ => Except DbError Unit
  | .dataDirExists => Except Unit Bool
  | .seatDirExists => Bool
  | .readGuardianArchive => Except Unit (Option GuardianArchive)
  | .removeDataDir => Except Unit Unit
  | .removeStaging => Except Unit Unit
  | .writeStaging _ => Except Unit Unit
  | .renameStaging => Except Unit Unit
  | .syncSeatDir => Except Unit Unit
  | .startChild => Except Unit Nat
  | .drivenClient _ => Except Unit ChildState
  | .stopChild _ => Except Unit Unit
  | .observe _ => ProcessObservation
  | .pendingEvents => Nat
  | .nextEvent => Except Unit DrivenDkgEvent
  | .runDkg _ => Except Unit Unit
  | .probe => Bool
  | .shutdownAfterCurrentSession => Unit
  | .publish _ _ => Except Unit Unit
  | .replyMaterial _ => Unit

structure Outside where
  clock : Lib.Fate := .onTime
  elapsed : Bool := true
  nowSecs : Nat := 0
  nowMs : Int := 0
  dbError : Option DbError := none
  federationAvailable : Except DbError Bool := .ok true
  dirExists : Except Unit Bool := .ok true
  seatDirExists : Bool := true
  archive : Except Unit (Option GuardianArchive) := .ok none
  /-- A file operation succeeds, or the only failure is that the directory is already gone. -/
  io : Except Unit Unit := .ok ()
  spawn : SpawnResult := .started
  childState : Except Unit ChildState := .ok .needsParams
  stop : Except Unit Unit := .ok ()
  observation : ProcessObservation := .exited (some 0)
  pendingEvents : Nat := 0
  event : Except Unit DrivenDkgEvent := .ok .dkgStarted
  runDkg : Except Unit Unit := .ok ()
  healthy : Bool := true
  publish : PublishResult := .confirmed

structure World where
  rows : SeatRows
  relay : Option (Nat × SeatBackupDocument) := none
  nextPid : Nat := 0

inductive Event where
  | childStarted (pid : Nat)
  | childExited (pid : Nat) (statusCode : Option Int)
  | waitFailed (pid : Nat)
  | childStopped (pid : Nat)
  | stopFailed (pid : Nat)
  | fenced
  | materialReturned (material : TransferMaterial)
  | confirmed (schemaVersion : Nat) (document : SeatBackupDocument)
  | recorded (docSha256 : String) (confirmedOutgoing : Option OutgoingTransfer) (schemaVersion : Nat)
deriving DecidableEq

namespace World

def read {α : Type} (w : World) (x : Outside) (f : SeatRows → α) : Option (Except DbError α × World × List Event) :=
  match x.dbError with
  | some e => some (.error e, w, [])
  | none => some (.ok (f w.rows), w, [])

/-- A write transaction of the seat's rows; `emit` tells from its answer what happened. -/
def writeEmit {α : Type} (w : World) (x : Outside) (f : SeatRows → SeatRows × Except DbError α)
    (emit : α → List Event) : Option (Except DbError α × World × List Event) :=
  match x.dbError with
  | some e => some (.error e, w, [])
  | none =>
    some ((f w.rows).2, { w with rows := (f w.rows).1 },
      match (f w.rows).2 with
      | .ok a => emit a
      | .error _ => [])

def write {α : Type} (w : World) (x : Outside) (f : SeatRows → SeatRows × Except DbError α) :
    Option (Except DbError α × World × List Event) :=
  w.writeEmit x f (fun _ => [])

def answer {α : Type} (w : World) (a : α) : Option (α × World × List Event) := some (a, w, [])

def startChild (w : World) : SpawnResult → Option (Except Unit Nat × World × List Event)
  | .started => some (.ok w.nextPid, { w with nextPid := w.nextPid + 1 }, [.childStarted w.nextPid])
  | .failed => some (.error (), w, [])
  | .failedAfterFork =>
    some (.error (), { w with nextPid := w.nextPid + 1 }, [.childStarted w.nextPid])

def stopChild (w : World) (pid : Nat) : Except Unit Unit → Option (Except Unit Unit × World × List Event)
  | .ok () => some (.ok (), w, [.childStopped pid])
  | .error () => some (.error (), w, [.stopFailed pid])

def observe (w : World) (pid : Nat) (o : ProcessObservation) : Option (ProcessObservation × World × List Event) :=
  match o with
  | .exited statusCode => some (o, w, [.childExited pid statusCode])
  | .waitFailed => some (o, w, [.waitFailed pid])
  | .driven _ | .drivenError | .drivenClosed => some (o, w, [])

def publish (w : World) (document : SeatBackupDocument) (schemaVersion : Nat) :
    PublishResult → Option (Except Unit Unit × World × List Event)
  | .confirmed =>
    some (.ok (), { w with relay := some (schemaVersion, document) }, [.confirmed schemaVersion document])
  | .landedUnconfirmed => some (.error (), { w with relay := some (schemaVersion, document) }, [])
  | .lost => some (.error (), w, [])

end World

def handler : Lib.Handler Ans World Outside Event := fun e w x =>
  match e with
  | .clock => w.answer x.clock
  | .elapsed => w.answer x.elapsed
  | .nowSecs => w.answer x.nowSecs
  | .formedFederationInvite => w.read x (fun r => r.formed.map (·.federationInvite))
  | .decommissionedAtMs => w.read x (·.decommissionedAtMs)
  | .outgoingTransfer => w.read x (·.transferOut)
  | .incomingTransfer => w.read x (·.transferIn)
  | .backupPublication v => w.read x (·.backupPublication v)
  | .retireForTransfer =>
    w.writeEmit x (fun r => (r.retireForTransfer.1, .ok r.retireForTransfer.2))
      (fun inserted => if inserted then [.fenced] else [])
  | .recordTransferRemoval =>
    w.write x (fun r => (r.recordTransferRemoval.1, .ok r.recordTransferRemoval.2))
  | .admitTransfer signed verified callback =>
    w.write x (fun r => r.admitTransfer signed verified callback x.federationAvailable)
  | .acceptTransfer binding keys invite => w.write x (fun r => r.acceptTransfer binding keys invite x.nowMs)
  | .dkgInputs => w.read x SeatRows.storedDkgInputs
  | .recordDkgInputs codes => w.write x (·.recordDkgInputs codes)
  | .recordFormed invite => w.write x (·.recordFormed invite x.nowMs)
  | .decommissionSeat => w.write x (·.decommission x.nowMs)
  | .seatRecoveryFacts => w.read x SeatRows.seatRecoveryFacts
  | .recordBackupPublication sha digest outgoing v =>
    w.writeEmit x (fun r => (r.recordBackupPublication sha digest outgoing v x.nowMs, .ok ()))
      (fun () => [.recorded sha outgoing v])
  | .dataDirExists => w.answer x.dirExists
  | .seatDirExists => w.answer x.seatDirExists
  | .readGuardianArchive => w.answer x.archive
  | .removeDataDir => w.answer x.io
  | .removeStaging => w.answer x.io
  | .writeStaging _ => w.answer x.io
  | .renameStaging => w.answer x.io
  | .syncSeatDir => w.answer x.io
  | .startChild => w.startChild x.spawn
  | .drivenClient _ => w.answer x.childState
  | .stopChild pid => w.stopChild pid x.stop
  | .observe pid => w.observe pid x.observation
  | .pendingEvents => w.answer x.pendingEvents
  | .nextEvent => w.answer x.event
  | .runDkg _ => w.answer x.runDkg
  | .probe => w.answer x.healthy
  | .shutdownAfterCurrentSession => w.answer ()
  | .publish publication v => w.publish publication.document v x.publish
  | .replyMaterial material => some ((), w, [.materialReturned material])

end Manifold.Guardian.Seat
