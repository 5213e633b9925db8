import Manifold.Guardian.Lemmas.SeatDaemon

/-!
# A hand-over never forks a guardian
-/

namespace Manifold.Guardian.Seat

open Lib

theorem noStart_after_fence {born h before after}
    (hi : Inv born h) (heq : h.past = before ++ .fenced :: after) : ∀ e ∈ after, e.isStart = false := by
  intro e he
  have hp := hi.noStart
  rw [heq] at hp
  exact (List.pairwise_cons.mp (List.pairwise_append.mp hp).2.1).1 e he rfl

/-- If material was returned, then an exit at a session boundary wrote the fence before, no daemon has started a
child since, a document that records an outgoing phase had been confirmed and none without one since, and a fleet
restored from the relay's document never starts a child either. -/
theorem handover_never_forks {es pre post : List Event} {s : State} {material : TransferMaterial}
    (hreach : machine.Reaches es s) (hes : es = pre ++ .materialReturned material :: post) :
    (∃ before pid mid after,
      pre = before ++ .childExited pid (some sessionBoundaryExitCode) :: (mid ++ .fenced :: after) ∧
      (∀ e ∈ mid, e.isProcess = false) ∧
      ∀ e ∈ mid ++ .fenced :: (after ++ .materialReturned material :: post), e.isStart = false) ∧
    (∃ v d, .confirmed v d ∈ pre ∧ d.outgoingTransfer.isSome = true) ∧
    (∀ v d, .confirmed v d ∈ post → d.outgoingTransfer.isSome = true) ∧
    (∀ sha outgoing v, .recorded sha outgoing v ∈ post → outgoing.isSome = true) ∧
    ∃ v d, s.world.relay = some (v, d) ∧ d.outgoingTransfer.isSome = true ∧
      ∀ codec key seatNo now rows, d.install codec key seatNo now = .ok rows →
        ∀ relay fs t, machine.Run (restored rows relay) fs t → ∀ e ∈ fs, e.isStart = false := by
  have hi := (Sound.of_reaches hreach).inv
  obtain ⟨hexit, hconf, hpost⟩ := hi.returned pre material post hes
  obtain ⟨fenceBefore, after, rfl, before, pid, mid, rfl, hmid⟩ := hexit id
  refine ⟨⟨before, pid, mid, after, by simp, hmid, fun e he => ?_⟩, hconf,
    fun v d hm => hpost _ hm, fun sha o v hm => hpost _ hm, ?_⟩
  · rcases List.mem_append.mp he with he | he
    · have hn := hmid e he
      cases e <;> first | rfl | cases hn
    rcases List.mem_cons.mp he with rfl | he
    · rfl
    · have hcut : es = (before ++ .childExited pid (some sessionBoundaryExitCode) :: mid) ++
          .fenced :: (after ++ .materialReturned material :: post) := by simpa using hes
      exact noStart_after_fence hi hcut e he
  obtain ⟨-, ⟨v, d, hr, hd⟩, -⟩ := hi.confirmed (hi.recorded material (by simp [hes]))
  refine ⟨v, d, hr, hd, fun codec key seatNo now rows hrows relay fs t hrun => ?_⟩
  obtain ⟨ho, hp⟩ := install_fenced hrows
  have hfenced : rows.transferOut.isSome = true := by rw [ho]; exact hd
  exact ((Sound.of_restored hfenced hp relay).run_restored hrun).inv.stays trivial |>.2

/-! ## A seat that moves -/

def movingConfig : Config where
  codec :=
    { archiveDigest := fun a => a.consensusJson
      docSha256 := fun d => if d.outgoingTransfer.isSome then "fenced" else "plain"
      federationId := fun _ => some "federation" }
  verifySignature := fun _ => true
  servicePubkey := 7
  effectiveKeys := fun k => ⟨k.irohApi, k.irohP2p⟩
  validateDkgCodes := fun _ codes => .ok codes
  materialMaxBytes := 1000
  formatVersion := 1

def movingSeat : State where
  world := { rows :=
    { facts := ⟨1, 0, 2, .infiniteBestEffort 5, 4, 0⟩, formed := some ⟨"invite", 0⟩ } }
  daemon := none

def movingMaterial : TransferMaterial := ⟨⟨"private", "local", "consensus"⟩, ⟨1, 2⟩⟩

def movingOutside : Outside :=
  { childState := .ok (.alreadyConfigured "invite")
    archive := .ok (some movingMaterial.archive)
    observation := .exited (some 3) }

def movingRun : List Act :=
  let request : Act := .next (.command (.transferOut ⟨⟨0, 2, "federation", ⟨"source", 7⟩, 1, 8, 9⟩, []⟩))
  let loop (n : Nat) := List.replicate n (Act.loop movingOutside)
  [.boot movingConfig ⟨1, 2, "auth", false⟩] ++ loop 4 ++ [.next .respawn] ++ loop 5 ++
    [request] ++ loop 4 ++ [.next .observation] ++ loop 3 ++
    [.beginScan] ++ List.replicate 7 (.scan movingOutside) ++ [request] ++ loop 6

theorem handover_never_forks_moving :
    ∃ pre s, machine.Reaches (pre ++ .materialReturned movingMaterial :: []) s ∧
      ∃ v d, .confirmed v d ∈ pre ∧ d.outgoingTransfer.isSome = true := by
  have hrun : (machine.exec movingSeat movingRun).map (fun r => r.2.getLast?) =
      some (some (.materialReturned movingMaterial)) := by decide +kernel
  obtain ⟨⟨s, es⟩, hexec, hlast⟩ := Option.map_eq_some_iff.mp hrun
  obtain ⟨pre, hes⟩ := List.getLast?_eq_some_iff.mp hlast
  have hreach : machine.Reaches es s :=
    Machine.reaches_of_exec (M := machine) ⟨rfl, rfl, fun p hp => by cases hp⟩ hexec
  exact ⟨pre, s, hes ▸ hreach, (handover_never_forks hreach hes).2.1⟩

end Manifold.Guardian.Seat
