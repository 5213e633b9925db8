import Manifold.Guardian.Seat.World

/-!
# The seat loop

`crates/mg/core/src/seat.rs`, `seat/transfer.rs` and `seat/import.rs`. Timers are flags. Commands that neither touch the
process nor write the seat's rows are not modelled.
-/

namespace Manifold.Guardian.Seat

open Lib (Routine)

inductive ProcessSlot where
  | empty
  | parked (pid : Nat)
  | dkgAcknowledged (pid : Nat)
  | configured (pid : Nat) (client : Bool)
  | exitUnproven
deriving DecidableEq

def ProcessSlot.pid? : ProcessSlot → Option Nat
  | .parked pid | .dkgAcknowledged pid | .configured pid _ => some pid
  | .empty | .exitUnproven => none

def ProcessSlot.isLive (s : ProcessSlot) : Bool := s.pid?.isSome

def ProcessSlot.hasClient : ProcessSlot → Bool
  | .parked _ | .dkgAcknowledged _ => true
  | .configured _ client => client
  | .empty | .exitUnproven => false

inductive ServiceStatus where
  | new
  | dkgInProcess
  | dataLoss
  | running
  | decommissioned
  | awaitingTransfer
  | transferred
  | removed
deriving DecidableEq

/-- Transfer statuses override the formed and the missing-data status. -/
def serviceStatusOf : TransferPhase → Option ServiceStatus
  | .waiting => some .awaitingTransfer
  | .imported => none
  | .outgoing .removed => some .removed
  | .outgoing .stopped => some .transferred

inductive SeatVerbError where
  | seatUnavailable
  | awaitingSessionEnd
  | awaitingBackup
  | wrongState (status : ServiceStatus)
  | invalidDkgInput (reason : String)
  | transferGrantMismatch
  | internal

structure SeatKeys where
  irohApi : BitVec 256
  irohP2p : BitVec 256
  apiAuth : String
  preserveGuardianIdentity : Bool

structure Config where
  codec : Codec
  verifySignature : SignedGrant → Bool
  servicePubkey : ServicePubkey
  /-- The identity the child runs under (`effective_iroh_api_key`, `effective_iroh_p2p_key`). -/
  effectiveKeys : SeatKeys → ImportedKeys
  validateDkgCodes : SeatKeys → List GuardianCode → Except String (List GuardianCode)
  materialMaxBytes : Nat
  formatVersion : Nat

/-- The memory of the loop: the published mirror of the durable facts, the process slot and the
timers. -/
structure SeatLoop where
  facts : SeatFacts
  keys : SeatKeys
  formedInvite : Option InviteCode
  decommissionedAtMs : Option Int
  transferPhase : Option TransferPhase
  healthy : Bool := false
  child : ProcessSlot := .empty
  childStarted : Bool := false
  respawnAt : Bool := false
  watchdogAt : Bool := false
  unresponsive : Bool := false

namespace SeatLoop

def transferStatus (m : SeatLoop) : Option ServiceStatus :=
  m.transferPhase.bind serviceStatusOf

def unformedStatus (m : SeatLoop) : ServiceStatus :=
  match m.transferStatus with
  | some status => status
  | none =>
    match m.child with
    | .dkgAcknowledged _ => .dkgInProcess
    | _ => .new

def serviceStatus (m : SeatLoop) (finalDataExists : Bool) : ServiceStatus :=
  if m.decommissionedAtMs.isSome then .decommissioned
  else
    match m.transferStatus with
    | some status => status
    | none =>
      if m.formedInvite.isSome then
        if finalDataExists then .running else .dataLoss
      else m.unformedStatus

end SeatLoop

structure ValidatedGuardian where
  material : TransferMaterial
  invite : InviteCode

inductive SeatCommand where
  | admitDestination (signed : SignedGrant) (serviceKey : ServicePubkey) (callbackCommitment : Option (BitVec 256))
  | install (binding : TransferMove) (guardian : ValidatedGuardian)
  | transferOut (signed : SignedGrant)
  | removeTransferred
  | startDkg (codes : List GuardianCode)
  | restartDkg (codes : List GuardianCode)
  | decommission
  | shutdown

inductive Turn where
  | observation
  | respawn
  | watchdog
  | command (command : SeatCommand)
  | channelClosed

def Turn.enabled (m : SeatLoop) : Turn → Bool
  | .observation => m.child.isLive
  | .respawn => m.respawnAt
  | .watchdog => m.watchdogAt
  | .command _ => true
  | .channelClosed => true

abbrev Verb := Routine Ans SeatLoop SeatVerbError

namespace Verb

def ask (e : Ask) : Verb (Ans e) := Routine.ask e

def tryAsk {χ α : Type} (r : Verb (Except χ α)) : Verb α := do
  match ← r with
  | .ok a => pure a
  | .error _ => throw .internal

def attempt {α : Type} (v : Verb α) : Verb (Except SeatVerbError α) := Routine.attempt v

def setPhase (phase : TransferPhase) : Verb Unit :=
  modify (fun m => { m with transferPhase := some phase })

def setSlot (slot : ProcessSlot) : Verb Unit := modify (fun m => { m with child := slot })

def rejectIf (c : Bool) (e : SeatVerbError) : Verb Unit := if c then throw e else pure ()

def rejectDecommissioned : Verb Unit := do
  rejectIf (← get).decommissionedAtMs.isSome (.wrongState .decommissioned)

def rejectTransferWork : Verb Unit := do
  match (← get).transferStatus with
  | some status => throw (.wrongState status)
  | none => pure ()

def finalDataExists : Verb Bool := tryAsk (ask .dataDirExists)

/-! ## The child process -/

def stopSlot : ProcessSlot → Verb Unit
  | .parked pid | .dkgAcknowledged pid | .configured pid _ => do
      match ← ask (.stopChild pid) with
      | .ok () => pure ()
      | .error () => do
          setSlot .exitUnproven
          throw .internal
  | .exitUnproven => do
      setSlot .exitUnproven
      throw .internal
  | .empty => pure ()

def stopChild : Verb Unit := do
  let m ← get
  modify (fun m => { m with respawnAt := false, child := .empty })
  stopSlot m.child
  modify (fun m => { m with childStarted := false })

def stopChildIf (c : Bool) : Verb Unit := if c then stopChild else pure ()

def scheduleRespawn : Verb Unit :=
  modify (fun m =>
    if m.transferStatus.isSome then { m with respawnAt := false }
    else if m.respawnAt ∨ m.child = .exitUnproven then m
    else { m with respawnAt := true })

def retireFailedCeremony : Verb Unit := do
  stopChild
  scheduleRespawn

/-- The answer is `none` when the data directory could not be inspected. -/
def watchdogEligible : Verb (Option Bool) := do
  let m ← get
  if m.transferStatus.isSome || m.formedInvite.isNone then pure (some false)
  else
    match ← ask .dataDirExists with
    | .ok present => pure (some present)
    | .error () => pure none

def scheduleWatchdog : Verb Unit := do
  let eligible ← watchdogEligible
  modify (fun m => { m with watchdogAt := eligible == some true })

def markDkgAcknowledged : Verb Unit :=
  modify (fun m =>
    match m.child with
    | .parked pid => { m with child := .dkgAcknowledged pid }
    | _ => m)

def markConfigured : Verb Unit :=
  modify (fun m =>
    match m.child with
    | .parked pid | .dkgAcknowledged pid => { m with child := .configured pid true }
    | _ => m)

def retireControlChannel : Verb Unit :=
  modify (fun m =>
    match m.child with
    | .configured pid _ => { m with child := .configured pid false }
    | _ => m)

def handlePersistedInvite (invite : InviteCode) : Verb Unit := do
  let _ ← tryAsk (ask (.recordFormed invite))
  modify (fun m => { m with formedInvite := some invite })
  markConfigured
  scheduleWatchdog

def handleDrivenEvent : DrivenDkgEvent → Verb Unit
  | .configPersisted invite => handlePersistedInvite invite
  | .dkgStarted => markDkgAcknowledged
  | .paramsRejected _ | .dkgFailed _ | .consensusStarted | .controlChannelRetired => pure ()

def awaitDkgStarted : Nat → Verb Unit
  | 0 => do
      rejectIf (!(← get).child.hasClient) .seatUnavailable
      throw .internal
  | n + 1 => do
      rejectIf (!(← get).child.hasClient) .seatUnavailable
      match ← ask .nextEvent with
      | .error () => throw .internal
      | .ok .dkgStarted => handleDrivenEvent .dkgStarted
      | .ok .consensusStarted =>
        if (← get).formedInvite.isSome then pure () else awaitDkgStarted n
      | .ok (.paramsRejected reason) => throw (.invalidDkgInput reason)
      | .ok (.dkgFailed _) => throw .internal
      | .ok event =>
        handleDrivenEvent event
        awaitDkgStarted n

def sendDkg (codes : List GuardianCode) : Verb Unit := do
  rejectIf (!(← get).child.hasClient) .seatUnavailable
  tryAsk (ask (.runDkg codes))
  let n ← ask .pendingEvents
  awaitDkgStarted n

def runValidatedDkg (codes : List GuardianCode) : Verb Unit := do
  match ← Routine.timeout .clock id (sendDkg codes) with
  | some (.ok ()) => pure ()
  | some (.error error) =>
    retireFailedCeremony
    throw error
  | none =>
    retireFailedCeremony
    throw .internal

def handleChildState (c : Config) : ChildState → Verb Unit
  | .needsParams => do
      -- parameters never go to a configured or formed seat
      if (← get).formedInvite.isSome then pure ()
      else if ← finalDataExists then pure ()
      else
        match ← tryAsk (ask .dkgInputs) with
        | none => pure ()
        | some codes =>
          match c.validateDkgCodes (← get).keys codes with
          | .error reason => throw (.invalidDkgInput reason)
          | .ok submitted => runValidatedDkg submitted
  | .alreadyConfigured invite => handlePersistedInvite invite

def stopFresh (pid : Nat) : Verb Unit := do
  match ← ask (.stopChild pid) with
  | .ok () => pure ()
  | .error () => setSlot .exitUnproven

def checkImported (pid : Nat) (importedInvite : Option InviteCode) (state : ChildState) : Verb Unit :=
  match importedInvite with
  | none => pure ()
  | some expected =>
    if state = .alreadyConfigured expected then pure ()
    else do
      stopFresh pid
      throw .seatUnavailable

def ChildState.slot (pid : Nat) : ChildState → ProcessSlot
  | .needsParams => .parked pid
  | .alreadyConfigured _ => .configured pid true

/-- Act on a fresh child's state. A child that cannot go on does not stay parked. -/
def takeUp (c : Config) (state : ChildState) : Verb Unit := do
  match ← attempt (handleChildState c state) with
  | .ok () => pure ()
  | .error error => do
      stopChildIf (← get).child.isLive
      throw error

/-- Only the installation of an accepted guardian passes its invite and bypasses the fence of a
pending import. -/
def spawnChildInner (c : Config) (importedInvite : Option InviteCode) : Verb Unit := do
  rejectIf ((← get).child != .empty) .internal
  let pid ← tryAsk (ask .startChild)
  match ← ask (.drivenClient pid) with
  | .error () => do
      stopFresh pid
      throw .internal
  | .ok state => do
      checkImported pid importedInvite state
      modify (fun m =>
        { m with child := ChildState.slot pid state, childStarted := true, unresponsive := false })
      takeUp c state

def spawnChild (c : Config) : Verb Unit := do
  rejectDecommissioned
  rejectTransferWork
  spawnChildInner c none

def spawnOrSchedule (c : Config) : Verb Unit := do
  match ← attempt (spawnChild c) with
  | .ok () => pure ()
  | .error _ => scheduleRespawn

/-! ## The source side of a transfer -/

def mirrorOutgoing (phase : OutgoingTransfer) : Verb Unit := setPhase (.outgoing phase)

/-- Commit the fence for an exit at a session boundary. The answer tells whether the guardian was
handed over. -/
def commitSessionBoundaryExit (exitCode : Option Int) : Verb Bool :=
  if exitCode = some sessionBoundaryExitCode then do
    match ← ask .retireForTransfer with
    | .ok true => do
        mirrorOutgoing .stopped
        return true
    | .ok false => return false
    | .error _ => return false
  else return false

def drainEvents : Nat → Verb Unit
  | 0 => pure ()
  | n + 1 => do
      match ← ask .nextEvent with
      | .error () => pure ()
      | .ok event =>
        let _ ← attempt (handleDrivenEvent event)
        drainEvents n

def drainSlot (slot : ProcessSlot) : Verb Unit :=
  if slot.hasClient then do
    let n ← ask .pendingEvents
    drainEvents n
  else pure ()

def handleChildExit (exit : Option (Option Int)) : Verb Unit := do
  let slot := (← get).child
  setSlot .empty
  drainSlot slot
  if ← commitSessionBoundaryExit exit.join then pure ()
  else do
    modify (fun m => { m with childStarted := false })
    scheduleRespawn

def logged (v : Verb Unit) : Verb Unit := do
  let _ ← attempt v

def handleProcessObservation : ProcessObservation → Verb Unit
  | .driven event => do
      logged (handleDrivenEvent event)
      match event with
      | .paramsRejected _ | .dkgFailed _ => logged retireFailedCeremony
      | .controlChannelRetired => retireControlChannel
      | _ => pure ()
  | .drivenError => logged retireFailedCeremony
  | .drivenClosed => logged retireFailedCeremony
  | .exited statusCode => handleChildExit (some statusCode)
  | .waitFailed => handleChildExit none

def verifyGrant (c : Config) (signed : SignedGrant) (now : Nat) : Option SeatTransferGrant :=
  if c.verifySignature signed ∧ signed.grant.isValidAt now then some signed.grant else none

def checkSourceGrant (c : Config) (signed : SignedGrant) : Verb Unit := do
  rejectDecommissioned
  match verifyGrant c signed (← ask .nowSecs) with
  | none => throw .transferGrantMismatch
  | some grant =>
    let m ← get
    let federation := m.formedInvite.bind c.codec.federationId
    rejectIf (grant.faId != m.facts.faId || grant.sourceSeatId != m.facts.seatId ||
      grant.source.servicePubkey != c.servicePubkey || federation != some grant.federationId)
      .transferGrantMismatch

def materialFits (c : Config) (archive : GuardianArchive) : Bool :=
  decide (64 + archive.privateJson.utf8ByteSize + archive.localJson.utf8ByteSize +
    archive.consensusJson.utf8ByteSize ≤ c.materialMaxBytes)

def readMaterial (c : Config) : Verb TransferMaterial := do
  let keys := c.effectiveKeys (← get).keys
  match ← ask .readGuardianArchive with
  | .ok (some archive) =>
    if materialFits c archive then pure ⟨archive, keys⟩ else throw .internal
  | .ok none => throw .internal
  | .error () => throw .internal

def requestShutdownAfterCurrentSession : Verb Unit := do
  match (← get).child with
  | .configured _ _ => ask .shutdownAfterCurrentSession
  | _ => pure ()

def transferOut (c : Config) (signed : SignedGrant) : Verb TransferMaterial := do
  checkSourceGrant c signed
  match ← tryAsk (ask .outgoingTransfer) with
  | none =>
    -- the export is tried before the stop that retires the source
    let _ ← readMaterial c
    requestShutdownAfterCurrentSession
    throw .awaitingSessionEnd
  | some .removed => throw (.wrongState .removed)
  | some .stopped =>
    let recorded ← tryAsk (ask (.backupPublication c.formatVersion))
    rejectIf (recorded.bind (·.confirmedOutgoing) != some .stopped) .awaitingBackup
    let material ← readMaterial c
    checkSourceGrant c signed
    return material

def syncSeatDirIf (present : Bool) : Verb Unit := if present then tryAsk (ask .syncSeatDir) else pure ()

def deleteMaterial : Verb Unit := do
  match ← ask .removeDataDir with
  | .error () => throw .seatUnavailable
  | .ok () => do
      syncSeatDirIf (← ask .seatDirExists)
      let changed ← tryAsk (ask .recordTransferRemoval)
      rejectIf (!changed) .seatUnavailable
      mirrorOutgoing .removed

def removeTransferred : Verb Bool := do
  rejectDecommissioned
  match (← get).transferPhase with
  | some (.outgoing .removed) => return true
  | some (.outgoing .stopped) => do
      deleteMaterial
      return false
  | _ => throw .seatUnavailable

/-! ## The destination side of a transfer -/

def checkImportAllowed : Verb Unit := do
  rejectDecommissioned
  match (← get).transferPhase with
  | some (.outgoing _) => throw .seatUnavailable
  | _ => pure ()

def mirrorIncoming (phase : TransferPhase) : Verb Unit := setPhase phase

/-- `serviceKey` is the key of the service that received the request. -/
def admitTransfer (c : Config) (signed : SignedGrant) (serviceKey : ServicePubkey)
    (callbackCommitment : Option (BitVec 256)) : Verb IncomingTransfer := do
  checkImportAllowed
  match verifyGrant c signed (← ask .nowSecs) with
  | none => throw .transferGrantMismatch
  | some grant =>
    let m ← get
    rejectIf (grant.faId != m.facts.faId || grant.destinationSeatId != m.facts.seatId ||
      grant.destinationServicePubkey != serviceKey) .transferGrantMismatch
    let verified := verifyGrant c signed (← ask .nowSecs)
    match ← tryAsk (ask (.admitTransfer signed verified callbackCommitment)) with
    | none => throw .transferGrantMismatch
    | some record =>
      mirrorIncoming record.phase
      -- a replay of an accepted move does not stop the imported child
      stopChildIf record.accepted.isNone
      return record

def currentImport : Verb IncomingTransfer := do
  checkImportAllowed
  match ← tryAsk (ask .incomingTransfer) with
  | none => throw .seatUnavailable
  | some record => pure record

def installImportedMaterial (c : Config) (material : TransferMaterial) : Verb Unit := do
  tryAsk (ask .removeStaging)
  if ← finalDataExists then do
    let installed ← tryAsk (ask .readGuardianArchive)
    rejectIf (installed.all (fun a => c.codec.archiveDigest a != c.codec.archiveDigest material.archive))
      .internal
  else do
    tryAsk (ask (.writeStaging material.archive))
    tryAsk (ask .renameStaging)
    tryAsk (ask .syncSeatDir)

def spawnImported (c : Config) (invite : InviteCode) : Verb Unit := do
  modify (fun m => { m with formedInvite := some invite })
  mirrorIncoming .imported
  match ← attempt (spawnChildInner c (some invite)) with
  | .ok () => pure ()
  | .error _ => scheduleRespawn

def installTransfer (c : Config) (binding : TransferMove) (guardian : ValidatedGuardian) : Verb Unit := do
  let record ← currentImport
  rejectIf (record.binding != binding) .transferGrantMismatch
  rejectIf (c.codec.federationId guardian.invite != some binding.federationId) .transferGrantMismatch
  rejectIf record.accepted.isSome .seatUnavailable
  stopChild
  modify (fun m => { m with keys :=
    ⟨guardian.material.keys.irohApi, guardian.material.keys.irohP2p, m.keys.apiAuth, true⟩ })
  -- the files are on disk before acceptance is recorded
  installImportedMaterial c guardian.material
  let accepted ← tryAsk (ask (.acceptTransfer binding guardian.material.keys guardian.invite))
  rejectIf (!accepted) .seatUnavailable
  spawnImported c guardian.invite
  scheduleWatchdog

/-! ## Ceremonies, watchdog and the end -/

def checkCeremonyAllowed : Verb Unit := do
  let present ← finalDataExists
  rejectDecommissioned
  rejectTransferWork
  let m ← get
  rejectIf m.formedInvite.isSome (.wrongState (m.serviceStatus present))
  rejectIf present .internal

def validated (c : Config) (codes : List GuardianCode) : Verb (List GuardianCode) := do
  match c.validateDkgCodes (← get).keys codes with
  | .error reason => throw (.invalidDkgInput reason)
  | .ok submitted => pure submitted

def startDkg (c : Config) (codes : List GuardianCode) : Verb Unit := do
  checkCeremonyAllowed
  let m ← get
  rejectIf (m.unformedStatus == .dkgInProcess) (.wrongState .dkgInProcess)
  match m.child with
  | .parked _ => do
      let submitted ← validated c codes
      tryAsk (ask (.recordDkgInputs submitted))
      runValidatedDkg submitted
  | _ => throw .seatUnavailable

def restartDkg (c : Config) (codes : List GuardianCode) : Verb ServiceStatus := do
  checkCeremonyAllowed
  let submitted ← validated c codes
  tryAsk (ask (.recordDkgInputs submitted))
  stopChild
  match ← attempt (spawnChild c) with
  | .error error => do
      scheduleRespawn
      throw error
  | .ok () => do
      let m ← get
      if m.formedInvite.isSome then return .running
      else do
        rejectIf (m.unformedStatus != .dkgInProcess) .seatUnavailable
        return .dkgInProcess

def restartIfUnresponsive : Verb Unit := do
  modify (fun m => { m with unresponsive := true })
  match (← get).child with
  | .configured _ _ =>
    if ← ask .elapsed then do
      match ← attempt stopChild with
      | .ok () => scheduleRespawn
      | .error _ => pure ()
    else pure ()
  | _ => pure ()

def watchdogTick : Verb Unit := do
  match ← watchdogEligible with
  | some true =>
    let healthy ← ask .probe
    modify (fun m => { m with healthy := healthy, watchdogAt := true })
    if healthy then modify (fun m => { m with unresponsive := false })
    else restartIfUnresponsive
  | _ => modify (fun m => { m with watchdogAt := false, healthy := false })

def decommission : Verb Unit := do
  let atMs ← tryAsk (ask .decommissionSeat)
  modify (fun m => { m with decommissionedAtMs := some atMs })
  stopChild

/-! ## One turn of the loop -/

def serve (c : Config) : SeatCommand → Verb Bool
  | .admitDestination signed serviceKey callback => do
      let _ ← attempt (admitTransfer c signed serviceKey callback)
      return true
  | .install binding guardian => do
      logged (installTransfer c binding guardian)
      return true
  | .transferOut signed => do
      match ← attempt (transferOut c signed) with
      | .ok material => ask (.replyMaterial material)
      | .error _ => pure ()
      return true
  | .removeTransferred => do
      let _ ← attempt removeTransferred
      return true
  | .startDkg codes => do
      logged (startDkg c codes)
      return true
  | .restartDkg codes => do
      let _ ← attempt (restartDkg c codes)
      return true
  | .decommission => do
      logged decommission
      return (← get).decommissionedAtMs.isNone
  | .shutdown => do
      logged stopChild
      return false

def turn (c : Config) : Turn → Verb Bool
  | .observation => do
      match (← get).child.pid? with
      | some pid =>
        let observation ← ask (.observe pid)
        handleProcessObservation observation
      | none => pure ()
      return true
  | .respawn => do
      modify (fun m => { m with respawnAt := false })
      spawnOrSchedule c
      return true
  | .watchdog => do
      modify (fun m => { m with watchdogAt := false })
      watchdogTick
      return true
  | .command command => serve c command
  | .channelClosed => do
      logged stopChild
      return false

def started (c : Config) : Verb Bool := do
  spawnOrSchedule c
  scheduleWatchdog
  return true

end Verb

end Manifold.Guardian.Seat
