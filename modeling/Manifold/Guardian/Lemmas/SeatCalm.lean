import Manifold.Guardian.Lemmas.SeatWorld

/-!
# Calm parts of the seat loop
-/

namespace Manifold.Guardian.Seat

open Lib Lib.Routine

def Harmless (g : SeatLoop → SeatLoop) : Prop :=
  ∀ m, (g m).transferPhase = m.transferPhase ∧ (g m).child.pid? = m.child.pid? ∧
    ((g m).child = .exitUnproven ↔ m.child = .exitUnproven)

/-- A property of memory and history that quiet questions and harmless changes keep. -/
structure Calm (H : Handler Ans World Outside Event) (K : Pact Event World)
    (P : SeatLoop → History → Prop) : Prop where
  quiet : ∀ e : Ask, e.quiet = true → Keeps H K P (Verb.ask e)
  mem : ∀ g, Harmless g → ∀ m h, P m h → P (g m) h

variable {H : Handler Ans World Outside Event} {K : Pact Event World} {P : SeatLoop → History → Prop}

/-! ## Errors -/

theorem keeps_tryAsk {χ α : Type} {v : Verb (Except χ α)} (hv : Keeps H K P v) : Keeps H K P (Verb.tryAsk v) := by
  refine keeps_bind hv fun r => ?_
  cases r with
  | ok a => exact keeps_pure
  | error e => exact keeps_throw

theorem keeps_rejectIf {c e} : Keeps H K P (Verb.rejectIf c e) := by
  unfold Verb.rejectIf
  split
  · exact keeps_throw
  · exact keeps_pure

theorem returns_logged {v} (hv : Returns H K P v) : Returns H K P (Verb.logged v) :=
  Spec.chain (Spec.attempt hv) fun _ => returns_pure

theorem keeps_rejectDecommissioned : Keeps H K P Verb.rejectDecommissioned :=
  keeps_bind keeps_get fun _ => keeps_rejectIf

theorem keeps_rejectTransferWork : Keeps H K P Verb.rejectTransferWork := by
  refine keeps_bind keeps_get fun m => ?_
  split
  · exact keeps_throw
  · exact keeps_pure

theorem keeps_checkImportAllowed : Keeps H K P Verb.checkImportAllowed := by
  refine keeps_bind keeps_rejectDecommissioned fun _ => keeps_bind keeps_get fun m => ?_
  split
  · exact keeps_throw
  · exact keeps_pure

theorem keeps_validated (c : Config) (codes : List GuardianCode) : Keeps H K P (Verb.validated c codes) := by
  refine keeps_bind keeps_get fun m => ?_
  split
  · exact keeps_throw
  · exact keeps_pure

/-! ## Memory -/

theorem harmless_of_child {g} (hg : ∀ m, (g m).transferPhase = m.transferPhase ∧ (g m).child = m.child) :
    Harmless g := by
  intro m
  obtain ⟨hp, hc⟩ := hg m
  exact ⟨hp, by rw [hc], by rw [hc]⟩

namespace Calm

variable (hP : Calm H K P)
include hP

theorem keeps {g} (hg : Harmless g) : Keeps H K P (modify g : Verb PUnit) :=
  keeps_modify (hP.mem g hg)

theorem modify {g} (hg : ∀ m, (g m).transferPhase = m.transferPhase ∧ (g m).child = m.child) :
    Keeps H K P (modify g : Verb PUnit) := hP.keeps (harmless_of_child hg)

theorem ask {e} (he : e.quiet = true) : Keeps H K P (Verb.ask e) := hP.quiet e he

theorem scheduleRespawn : Keeps H K P Verb.scheduleRespawn := by
  refine hP.modify fun m => ?_
  split
  · exact ⟨rfl, rfl⟩
  · split
    · exact ⟨rfl, rfl⟩
    · exact ⟨rfl, rfl⟩

theorem markDkgAcknowledged : Keeps H K P Verb.markDkgAcknowledged := by
  refine hP.keeps fun m => ?_
  split
  · rename_i hc
    rw [hc]
    exact ⟨rfl, rfl, by simp⟩
  · exact ⟨rfl, rfl, Iff.rfl⟩

theorem markConfigured : Keeps H K P Verb.markConfigured := by
  refine hP.keeps fun m => ?_
  split
  · rename_i hc
    rw [hc]
    exact ⟨rfl, rfl, by simp⟩
  · rename_i hc
    rw [hc]
    exact ⟨rfl, rfl, by simp⟩
  · exact ⟨rfl, rfl, Iff.rfl⟩

theorem retireControlChannel : Keeps H K P Verb.retireControlChannel := by
  refine hP.keeps fun m => ?_
  split
  · rename_i hc
    rw [hc]
    exact ⟨rfl, rfl, by simp⟩
  · exact ⟨rfl, rfl, Iff.rfl⟩

theorem finalDataExists : Keeps H K P Verb.finalDataExists := keeps_tryAsk (hP.ask rfl)

theorem watchdogEligible : Keeps H K P Verb.watchdogEligible := by
  refine keeps_bind keeps_get fun m => ?_
  split
  · exact keeps_pure
  refine keeps_bind (hP.ask rfl) fun r => ?_
  cases r with
  | ok | error => exact keeps_pure

theorem scheduleWatchdog : Keeps H K P Verb.scheduleWatchdog :=
  keeps_bind hP.watchdogEligible fun _ => hP.modify fun _ => ⟨rfl, rfl⟩

/-! ## The control stream -/

theorem handlePersistedInvite (invite : InviteCode) : Keeps H K P (Verb.handlePersistedInvite invite) :=
  keeps_bind (keeps_tryAsk (hP.ask rfl)) fun _ =>
    keeps_bind (hP.modify fun _ => ⟨rfl, rfl⟩) fun _ =>
      keeps_bind hP.markConfigured fun _ => hP.scheduleWatchdog

theorem handleDrivenEvent (event : DrivenDkgEvent) : Keeps H K P (Verb.handleDrivenEvent event) := by
  cases event with
  | configPersisted invite => exact hP.handlePersistedInvite invite
  | dkgStarted => exact hP.markDkgAcknowledged
  | paramsRejected | dkgFailed | consensusStarted | controlChannelRetired => exact keeps_pure

theorem drainEvents (n : Nat) : Keeps H K P (Verb.drainEvents n) := by
  induction n with
  | zero => exact keeps_pure
  | succ n ih =>
    refine keeps_bind (hP.ask rfl) fun r => ?_
    cases r with
    | error e => exact keeps_pure
    | ok event => exact keeps_bind (keeps_attempt (hP.handleDrivenEvent event)) fun _ => ih

theorem drainSlot (slot : ProcessSlot) : Keeps H K P (Verb.drainSlot slot) := by
  unfold Verb.drainSlot
  split
  · exact keeps_bind (hP.ask rfl) fun n => hP.drainEvents n
  · exact keeps_pure

theorem awaitDkgStarted (n : Nat) : Keeps H K P (Verb.awaitDkgStarted n) := by
  induction n with
  | zero => exact keeps_bind keeps_get fun _ => keeps_bind keeps_rejectIf fun _ => keeps_throw
  | succ n ih =>
    refine keeps_bind keeps_get fun _ => keeps_bind keeps_rejectIf fun _ =>
      keeps_bind (hP.ask rfl) fun r => ?_
    cases r with
    | error e => exact keeps_throw
    | ok event =>
      cases event with
      | dkgStarted => exact hP.handleDrivenEvent _
      | consensusStarted =>
        refine keeps_bind keeps_get fun m => ?_
        split
        · exact keeps_pure
        · exact ih
      | paramsRejected reason => exact keeps_throw
      | dkgFailed reason => exact keeps_throw
      | configPersisted | controlChannelRetired =>
        exact keeps_bind (hP.handleDrivenEvent _) fun _ => ih

theorem sendDkg (codes : List GuardianCode) : Keeps H K P (Verb.sendDkg codes) :=
  keeps_bind keeps_get fun _ => keeps_bind keeps_rejectIf fun _ =>
    keeps_bind (keeps_tryAsk (hP.ask rfl)) fun _ =>
      keeps_bind (hP.ask rfl) fun n => hP.awaitDkgStarted n

/-! ## Checks and files -/

theorem checkSourceGrant (c : Config) (signed : SignedGrant) : Keeps H K P (Verb.checkSourceGrant c signed) := by
  refine keeps_bind keeps_rejectDecommissioned fun _ => keeps_bind (hP.ask rfl) fun now => ?_
  split
  · exact keeps_throw
  · exact keeps_bind keeps_get fun _ => keeps_rejectIf

theorem readMaterial (c : Config) : Keeps H K P (Verb.readMaterial c) := by
  refine keeps_bind keeps_get fun m => keeps_bind (hP.ask rfl) fun r => ?_
  match r with
  | .ok (some archive) =>
    dsimp only
    split
    · exact keeps_pure
    · exact keeps_throw
  | .ok none => exact keeps_throw
  | .error e => exact keeps_throw

theorem requestShutdown : Keeps H K P Verb.requestShutdownAfterCurrentSession := by
  refine keeps_bind keeps_get fun m => ?_
  split
  · exact hP.ask rfl
  · exact keeps_pure

theorem syncSeatDirIf {present} : Keeps H K P (Verb.syncSeatDirIf present) := by
  unfold Verb.syncSeatDirIf
  split
  · exact keeps_tryAsk (hP.ask rfl)
  · exact keeps_pure

theorem currentImport : Keeps H K P Verb.currentImport := by
  refine keeps_bind keeps_checkImportAllowed fun _ => keeps_bind (keeps_tryAsk (hP.ask rfl)) fun r => ?_
  cases r with
  | none => exact keeps_throw
  | some record => exact keeps_pure

theorem installImportedMaterial (c : Config) (material : TransferMaterial) :
    Keeps H K P (Verb.installImportedMaterial c material) := by
  refine keeps_bind (keeps_tryAsk (hP.ask rfl)) fun _ => keeps_bind hP.finalDataExists fun present => ?_
  split
  · exact keeps_bind (keeps_tryAsk (hP.ask rfl)) fun _ => keeps_rejectIf
  · exact keeps_bind (keeps_tryAsk (hP.ask rfl)) fun _ =>
      keeps_bind (keeps_tryAsk (hP.ask rfl)) fun _ => keeps_tryAsk (hP.ask rfl)

theorem checkCeremonyAllowed : Keeps H K P Verb.checkCeremonyAllowed :=
  keeps_bind hP.finalDataExists fun _ =>
    keeps_bind keeps_rejectDecommissioned fun _ => keeps_bind keeps_rejectTransferWork fun _ =>
      keeps_bind keeps_get fun _ => keeps_bind keeps_rejectIf fun _ => keeps_rejectIf

end Calm

/-! ## Stopping and starting the child

What a walk over the loop shows on its own, and what every walk then has. -/

section

variable (H K P)

structure Stops : Prop extends Calm H K P where
  clock : ∀ s x r t out, H .clock s x = some (r, t, out) → t = s ∧ out = []
  guar : ∀ h, K.guar h h
  stable : ∀ m h h', K.rely h h' → P m h → P m h'
  stopChild : Returns H K P Verb.stopChild

structure Spawns : Prop extends Stops H K P where
  spawnChild : ∀ c, Returns H K P (Verb.spawnChild c)

structure Serves : Prop extends Spawns H K P where
  admitTransfer : ∀ c signed serviceKey callback, Returns H K P (Verb.admitTransfer c signed serviceKey callback)
  installTransfer : ∀ c binding guardian, Returns H K P (Verb.installTransfer c binding guardian)
  transferOut : ∀ c signed, Returns H K P (Verb.serve c (.transferOut signed))
  removeTransferred : Returns H K P Verb.removeTransferred
  observation : ∀ c, Returns H K P (Verb.turn c .observation)

end

namespace Stops

variable (hP : Stops H K P)
include hP

theorem stopChildIf {c} : Returns H K P (Verb.stopChildIf c) := by
  unfold Verb.stopChildIf
  split
  · exact hP.stopChild
  · exact returns_pure

theorem retireFailedCeremony : Returns H K P Verb.retireFailedCeremony :=
  Spec.chain hP.stopChild fun _ => hP.scheduleRespawn.returns

theorem runValidatedDkg (codes : List GuardianCode) : Returns H K P (Verb.runValidatedDkg codes) := by
  refine Keeps.then (Spec.timeout hP.clock hP.guar hP.stable (hP.sendDkg codes) (fun _ _ _ h => h) fun _ _ h => h)
    fun r => ?_
  match r with
  | some (.ok _) => exact returns_pure
  | some (.error _) => exact Spec.chain hP.retireFailedCeremony fun _ => returns_throw
  | none => exact Spec.chain hP.retireFailedCeremony fun _ => returns_throw

theorem handleChildState (c : Config) (state : ChildState) : Returns H K P (Verb.handleChildState c state) := by
  cases state with
  | alreadyConfigured invite => exact (hP.handlePersistedInvite invite).returns
  | needsParams =>
    refine keeps_get.then fun m => ?_
    split
    · exact returns_pure
    refine hP.finalDataExists.then fun present => ?_
    split
    · exact returns_pure
    refine (keeps_tryAsk (hP.ask rfl)).then fun inputs => ?_
    cases inputs with
    | none => exact returns_pure
    | some codes =>
      refine keeps_get.then fun m => ?_
      split
      · exact returns_throw
      · exact hP.runValidatedDkg _

theorem takeUp (c : Config) (state : ChildState) : Returns H K P (Verb.takeUp c state) := by
  refine Spec.chain (Spec.attempt (hP.handleChildState c state)) fun r => ?_
  cases r with
  | ok u => exact returns_pure
  | error e => exact keeps_get.then fun _ => Spec.chain hP.stopChildIf fun _ => returns_throw

theorem handleProcessObservation {o} (hw : o ≠ .waitFailed) (he : ∀ code, o ≠ .exited code) :
    Returns H K P (Verb.handleProcessObservation o) := by
  cases o with
  | exited code => exact absurd rfl (he code)
  | waitFailed => exact absurd rfl hw
  | drivenError | drivenClosed => exact returns_logged hP.retireFailedCeremony
  | driven event =>
    refine Spec.chain (returns_logged (hP.handleDrivenEvent event).returns) fun _ => ?_
    cases event with
    | paramsRejected | dkgFailed => exact returns_logged hP.retireFailedCeremony
    | controlChannelRetired => exact hP.retireControlChannel.returns
    | configPersisted | dkgStarted | consensusStarted => exact returns_pure

theorem startDkg (c : Config) (codes : List GuardianCode) : Returns H K P (Verb.startDkg c codes) := by
  refine hP.checkCeremonyAllowed.then fun _ => keeps_get.then fun m => keeps_rejectIf.then fun _ => ?_
  split
  · exact (keeps_validated c codes).then fun submitted =>
      (keeps_tryAsk (hP.ask rfl)).then fun _ => hP.runValidatedDkg submitted
  · exact returns_throw

theorem restartIfUnresponsive : Returns H K P Verb.restartIfUnresponsive := by
  refine Keeps.then (hP.modify fun _ => ⟨rfl, rfl⟩) fun _ => keeps_get.then fun m => ?_
  split
  · refine (hP.ask rfl).then fun elapsed => ?_
    split
    · refine Spec.chain (Spec.attempt hP.stopChild) fun r => ?_
      cases r with
      | ok u => exact hP.scheduleRespawn.returns
      | error e => exact returns_pure
    · exact returns_pure
  · exact returns_pure

theorem watchdogTick : Returns H K P Verb.watchdogTick := by
  refine hP.watchdogEligible.then fun eligible => ?_
  split
  · refine (hP.ask rfl).then fun healthy => Keeps.then (hP.modify fun _ => ⟨rfl, rfl⟩) fun _ => ?_
    split
    · exact Keeps.returns (hP.modify fun _ => ⟨rfl, rfl⟩)
    · exact hP.restartIfUnresponsive
  · exact Keeps.returns (hP.modify fun _ => ⟨rfl, rfl⟩)

theorem decommission : Returns H K P Verb.decommission :=
  (keeps_tryAsk (hP.ask rfl)).then fun _ => Keeps.then (hP.modify fun _ => ⟨rfl, rfl⟩) fun _ => hP.stopChild

end Stops

namespace Spawns

variable (hP : Spawns H K P)
include hP

theorem spawnOrSchedule (c : Config) : Returns H K P (Verb.spawnOrSchedule c) := by
  refine Spec.chain (Spec.attempt (hP.spawnChild c)) fun r => ?_
  cases r with
  | ok u => exact returns_pure
  | error e => exact hP.scheduleRespawn.returns

theorem restartDkg (c : Config) (codes : List GuardianCode) : Returns H K P (Verb.restartDkg c codes) := by
  refine hP.checkCeremonyAllowed.then fun _ => (keeps_validated c codes).then fun _ =>
    (keeps_tryAsk (hP.ask rfl)).then fun _ =>
      Spec.chain hP.stopChild fun _ => Spec.chain (Spec.attempt (hP.spawnChild c)) fun r => ?_
  cases r with
  | error e => exact hP.scheduleRespawn.then fun _ => returns_throw
  | ok u =>
    refine keeps_get.then fun m => ?_
    split
    · exact returns_pure
    · exact keeps_rejectIf.then fun _ => returns_pure

end Spawns

/-! ## One turn -/

namespace Serves

variable (hP : Serves H K P)
include hP

theorem serve (c : Config) (command : SeatCommand) : Returns H K P (Verb.serve c command) := by
  cases command with
  | admitDestination signed serviceKey callback =>
    exact Spec.chain (Spec.attempt (hP.admitTransfer c signed serviceKey callback)) fun _ => returns_pure
  | install binding guardian =>
    exact Spec.chain (returns_logged (hP.installTransfer c binding guardian)) fun _ => returns_pure
  | transferOut signed => exact hP.transferOut c signed
  | removeTransferred => exact Spec.chain (Spec.attempt hP.removeTransferred) fun _ => returns_pure
  | startDkg codes => exact Spec.chain (returns_logged (hP.startDkg c codes)) fun _ => returns_pure
  | restartDkg codes => exact Spec.chain (Spec.attempt (hP.restartDkg c codes)) fun _ => returns_pure
  | decommission => exact Spec.chain (returns_logged hP.decommission) fun _ => keeps_get.then fun _ => returns_pure
  | shutdown => exact Spec.chain (returns_logged hP.stopChild) fun _ => returns_pure

theorem turn (c : Config) (t : Turn) : Returns H K P (Verb.turn c t) := by
  cases t with
  | command command => exact hP.serve c command
  | channelClosed => exact Spec.chain (returns_logged hP.stopChild) fun _ => returns_pure
  | respawn =>
    exact Keeps.then (hP.modify fun _ => ⟨rfl, rfl⟩) fun _ => Spec.chain (hP.spawnOrSchedule c) fun _ => returns_pure
  | watchdog => exact Keeps.then (hP.modify fun _ => ⟨rfl, rfl⟩) fun _ => Spec.chain hP.watchdogTick fun _ => returns_pure
  | observation => exact hP.observation c

theorem started (c : Config) : Returns H K P (Verb.started c) :=
  Spec.chain (hP.spawnOrSchedule c) fun _ => hP.scheduleWatchdog.then fun _ => returns_pure

end Serves

end Manifold.Guardian.Seat
