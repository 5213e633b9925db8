import Manifold.Lib.Machine
import Manifold.Guardian.Seat.Loop

/-!
# The backup worker and the daemon

`BackupWorker::reconcile_seat`, and the daemon that runs the seat loop beside it and may die at any await.
-/

namespace Manifold.Guardian.Seat

open Lib (Routine Task)

abbrev Work := Routine Ans Unit String

namespace Work

def ask (e : Ask) : Work (Ans e) := Routine.ask e

def tryAsk {χ α : Type} (r : Work (Except χ α)) : Work α := do
  match ← r with
  | .ok a => pure a
  | .error _ => throw "database or filesystem failure"

def seatPublicationPlan (codec : Codec) (facts : SeatFacts) (confirmedDigest : Option String) :
    Work SeatPublication := do
  let recovery ← tryAsk (ask .seatRecoveryFacts)
  let archive ←
    if recovery.readsArchive confirmedDigest then tryAsk (ask .readGuardianArchive) else pure none
  Routine.ofExcept (recovery.plan codec facts confirmedDigest archive)

def rejectIf (c : Bool) (e : String) : Work Unit := if c then throw e else pure ()

def publishConfirmed (plan : SeatPublication) (formatVersion : Nat) : Work Unit := do
  match ← Routine.timeout .clock id (ask (.publish plan formatVersion)) with
  | none => throw "publish did not resolve in time"
  | some (.error e) => throw e
  | some (.ok (.error ())) => throw "publish failed"
  | some (.ok (.ok ())) => pure ()

def publishAndRecord (codec : Codec) (facts : SeatFacts) (formatVersion : Nat) (plan : SeatPublication) :
    Work Unit := do
  publishConfirmed plan formatVersion
  let current ← seatPublicationPlan codec facts plan.archiveDigest
  rejectIf (codec.docSha256 current.document != codec.docSha256 plan.document)
    "seat recovery requirements changed during publication"
  tryAsk (ask (.recordBackupPublication (codec.docSha256 plan.document) plan.archiveDigest
    plan.document.outgoingTransfer formatVersion))

def reconcileSeat (codec : Codec) (facts : SeatFacts) (formatVersion : Nat) : Work Unit := do
  let recorded ← tryAsk (ask (.backupPublication formatVersion))
  let plan ← seatPublicationPlan codec facts (recorded.bind (·.archiveDigest))
  -- an archive that is not confirmed is published again even under an unchanged document
  if plan.archive.isNone && recorded.any (fun r => r.docSha256 == codec.docSha256 plan.document) then
    pure ()
  else publishAndRecord codec facts formatVersion plan

end Work

/-! ## The daemon -/

/-- `Fleet::open`: the formed invite, then the fence of an outgoing transfer, which overrides an incoming one. -/
def openSeat (facts : SeatFacts) (keys : SeatKeys) : Routine Ans Unit String SeatLoop := do
  let decommissionedAtMs ← Work.tryAsk (Work.ask .decommissionedAtMs)
  let formedInvite ← Work.tryAsk (Work.ask .formedFederationInvite)
  let transferPhase ←
    match ← Work.tryAsk (Work.ask .outgoingTransfer) with
    | some outgoing => pure (some (TransferPhase.outgoing outgoing))
    | none => do
        let incoming ← Work.tryAsk (Work.ask .incomingTransfer)
        pure (incoming.map (·.phase))
  return {
    facts := facts
    keys := keys
    formedInvite := formedInvite
    decommissionedAtMs := decommissionedAtMs
    transferPhase := transferPhase }

inductive LoopTask where
  | opening (t : Task Ans Unit (Except String SeatLoop))
  | running (t : Task Ans SeatLoop (Except SeatVerbError Bool))
  | ended

structure Daemon where
  config : Config
  loop : LoopTask
  scan : Option (Task Ans Unit (Except String Unit))

structure State where
  world : World
  daemon : Option Daemon

inductive Act where
  | boot (config : Config) (keys : SeatKeys)
  | loop (x : Outside)
  | next (t : Turn)
  | beginScan
  | scan (x : Outside)
  | endScan
  | crash

def resume {μ α : Type} (w : World) (x : Outside) : Task Ans μ α → Option (Task Ans μ α × World × List Event)
  | .done _ _ => none
  | .await _ e k => (handler e w x).map (fun r => (k r.1, r.2.1, r.2.2))

/-- What follows when a stage of the seat's task is done. A decommissioned seat has no loop. -/
def LoopTask.next (c : Config) (t : Turn) : LoopTask → Option LoopTask
  | .opening (.done _ (.ok m)) =>
    if m.decommissionedAtMs.isSome then some .ended else some (.running (Verb.started c m))
  | .running (.done m (.ok true)) =>
    if t.enabled m then some (.running (Verb.turn c t m)) else none
  | .running (.done _ (.ok false)) => some .ended
  | _ => none

def State.onDaemon (s : State) (f : Daemon → Option (Daemon × World × List Event)) : Option (State × List Event) :=
  s.daemon.bind (fun d => (f d).map (fun r => (⟨r.2.1, some r.1⟩, r.2.2)))

def Daemon.resumeLoop (d : Daemon) (w : World) (x : Outside) : Option (Daemon × World × List Event) :=
  match d.loop with
  | .opening t => (resume w x t).map (fun r => ({ d with loop := .opening r.1 }, r.2))
  | .running t => (resume w x t).map (fun r => ({ d with loop := .running r.1 }, r.2))
  | .ended => none

def step (s : State) : Act → Option (State × List Event)
  | .boot config keys =>
    match s.daemon with
    | some _ => none
    | none =>
      some (⟨s.world, some ⟨config, .opening (openSeat s.world.rows.facts keys ()), none⟩⟩, [])
  | .loop x => s.onDaemon (fun d => d.resumeLoop s.world x)
  | .next t => s.onDaemon (fun d => (d.loop.next d.config t).map (fun l => ({ d with loop := l }, s.world, [])))
  | .beginScan =>
    s.onDaemon (fun d =>
      match d.scan with
      | some _ => none
      | none =>
        let scan := Work.reconcileSeat d.config.codec s.world.rows.facts d.config.formatVersion ()
        some ({ d with scan := some scan }, s.world, []))
  | .scan x =>
    s.onDaemon (fun d => d.scan.bind (fun t =>
      (resume s.world x t).map (fun r => ({ d with scan := some r.1 }, r.2))))
  | .endScan =>
    s.onDaemon (fun d =>
      match d.scan with
      | some (.done _ _) => some ({ d with scan := none }, s.world, [])
      | _ => none)
  | .crash => some ({ s with daemon := none }, [])

/-- A seat that was created here, or restored before any transfer. -/
def init (s : State) : Prop :=
  s.daemon = none ∧ s.world.rows.transferOut = none ∧
    ∀ p, s.world.rows.publication = some p → p.confirmedOutgoing = none

def machine : Lib.Machine State Act Event where
  init := init
  step := step

def restored (rows : SeatRows) (relay : Option (Nat × SeatBackupDocument)) : State :=
  ⟨{ rows := rows, relay := relay }, none⟩

end Manifold.Guardian.Seat
