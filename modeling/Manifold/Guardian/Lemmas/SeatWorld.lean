import Manifold.Guardian.Seat.Worker

/-!
# The fence of a seat and what its history says about it
-/

namespace Manifold.Guardian.Seat

open Lib (Hist Pact)

/-! ## Events -/

def Event.isProcess : Event → Bool
  | .childStarted _ | .childExited _ _ | .waitFailed _ | .childStopped _ | .stopFailed _ => true
  | _ => false

def Event.isStart : Event → Bool
  | .childStarted _ => true
  | _ => false

def Event.keepsFence : Event → Bool
  | .confirmed _ document => document.outgoingTransfer.isSome
  | .recorded _ confirmedOutgoing _ => confirmedOutgoing.isSome
  | _ => true

def JustExited (past : List Event) : Prop :=
  ∃ pre pid mid, past = pre ++ .childExited pid (some sessionBoundaryExitCode) :: mid ∧ ∀ e ∈ mid, e.isProcess = false

def ExitFenced (past : List Event) : Prop :=
  ∃ pre post, past = pre ++ .fenced :: post ∧ JustExited pre

def FenceConfirmed (past : List Event) : Prop :=
  ∃ v d, .confirmed v d ∈ past ∧ d.outgoingTransfer.isSome = true

theorem JustExited.append {past out} (h : JustExited past) (hout : ∀ e ∈ out, e.isProcess = false) :
    JustExited (past ++ out) := by
  obtain ⟨pre, pid, mid, rfl, hmid⟩ := h
  refine ⟨pre, pid, mid ++ out, by simp, fun e he => ?_⟩
  rcases List.mem_append.mp he with he | he
  · exact hmid e he
  · exact hout e he

theorem ExitFenced.append {past} (h : ExitFenced past) (out : List Event) : ExitFenced (past ++ out) := by
  obtain ⟨pre, post, rfl, hpre⟩ := h
  exact ⟨pre, post ++ out, by simp, hpre⟩

theorem FenceConfirmed.append {past} (h : FenceConfirmed past) (out : List Event) : FenceConfirmed (past ++ out) := by
  obtain ⟨v, d, hm, hd⟩ := h
  exact ⟨v, d, List.mem_append_left _ hm, hd⟩

/-! ## The invariant -/

abbrev History := Hist Event World

def World.fenced (w : World) : Prop := w.rows.transferOut.isSome = true

/-- A confirmed publication of an outgoing phase is recorded, under whatever format. -/
def World.confirmed (w : World) : Prop :=
  ∃ p, w.rows.publication = some p ∧ p.confirmedOutgoing.isSome = true

def World.relayFenced (w : World) : Prop :=
  ∃ v d, w.relay = some (v, d) ∧ d.outgoingTransfer.isSome = true

/-- What holds of a history that started fenced (`born`), or without a fence. -/
structure Inv (born : Prop) (h : History) : Prop where
  exited : h.now.fenced → ¬ born → ExitFenced h.past
  wrote : .fenced ∈ h.past → h.now.fenced
  noStart : h.past.Pairwise (fun a b => a = .fenced → b.isStart = false)
  stays : born → h.now.fenced ∧ ∀ e ∈ h.past, e.isStart = false
  confirmed : h.now.confirmed → h.now.fenced ∧ h.now.relayFenced ∧ FenceConfirmed h.past
  returned : ∀ pre m post, h.past = pre ++ .materialReturned m :: post →
    (¬ born → ExitFenced pre) ∧ FenceConfirmed pre ∧ ∀ e ∈ post, e.keepsFence = true
  recorded : ∀ m, .materialReturned m ∈ h.past → h.now.confirmed

/-- The steps that keep the invariant: at most one event, a fence right after an exit at a session boundary, a child
only without a fence, material only when a confirmation is recorded. -/
structure Step (h : History) (out : List Event) (t : World) : Prop where
  one : out = [] ∨ ∃ e, out = [e]
  fence : h.now.fenced → t.fenced
  wrote : .fenced ∈ out → t.fenced
  exited : t.fenced → h.now.fenced ∨ (JustExited h.past ∧ out = [.fenced])
  start : ∀ e ∈ out, e.isStart = true → ¬ h.now.fenced
  returned : ∀ m, .materialReturned m ∈ out → h.now.confirmed
  keeps : h.now.confirmed → t.confirmed ∧ ∀ e ∈ out, e.keepsFence = true
  confirmed : t.confirmed → t.fenced ∧ t.relayFenced ∧ FenceConfirmed (h.past ++ out)

theorem Inv.step {born h out t} (hi : Inv born h) (hs : Step h out t) : Inv born (h.snoc out t) where
  exited := by
    intro ht hb
    rcases hs.exited ht with hf | ⟨hj, rfl⟩
    · exact (hi.exited hf hb).append out
    · exact ⟨h.past, [], rfl, hj⟩
  wrote := by
    intro hm
    rcases List.mem_append.mp hm with hm | hm
    · exact hs.fence (hi.wrote hm)
    · exact hs.wrote hm
  noStart := by
    refine List.pairwise_append.mpr ⟨hi.noStart, ?_, fun a ha b hb hab => ?_⟩
    · rcases hs.one with rfl | ⟨e, rfl⟩ <;> simp
    subst hab
    cases hst : b.isStart with
    | false => rfl
    | true => exact absurd (hi.wrote ha) (hs.start b hb hst)
  stays := by
    intro hb
    obtain ⟨hf, hno⟩ := hi.stays hb
    refine ⟨hs.fence hf, fun e he => ?_⟩
    rcases List.mem_append.mp he with he | he
    · exact hno e he
    · cases hst : e.isStart with
      | false => rfl
      | true => exact absurd hf (hs.start e he hst)
  confirmed := hs.confirmed
  returned := by
    intro pre m post heq
    rcases List.append_eq_append_iff.mp heq with ⟨l, rfl, hl⟩ | ⟨l, hl, hl'⟩
    · -- the material is returned in this step
      rcases hs.one with rfl | ⟨e, rfl⟩
      · simp at hl
      cases l with
      | cons _ _ => simp at hl
      | nil =>
        obtain ⟨rfl, rfl⟩ := hl
        obtain ⟨hf, -, hc⟩ := hi.confirmed (hs.returned m (by simp))
        exact ⟨fun hb => by simpa using hi.exited hf hb, by simpa using hc, by simp⟩
    cases l with
    | nil =>
      simp only [List.append_nil] at hl
      simp only [List.nil_append] at hl'
      subst hl
      rcases hs.one with rfl | ⟨e, rfl⟩
      · simp at hl'
      obtain ⟨rfl, rfl⟩ := hl'
      obtain ⟨hf, -, hc⟩ := hi.confirmed (hs.returned m (by simp))
      exact ⟨fun hb => hi.exited hf hb, hc, by simp⟩
    | cons e l =>
      obtain ⟨rfl, rfl⟩ := hl'
      obtain ⟨h1, h2, h3⟩ := hi.returned pre m l hl
      refine ⟨h1, h2, fun e he => ?_⟩
      rcases List.mem_append.mp he with he | he
      · exact h3 e he
      · exact (hs.keeps (hi.recorded m (by rw [hl]; simp))).2 e he
  recorded := by
    intro m hm
    rcases List.mem_append.mp hm with hm | hm
    · exact (hs.keeps (hi.recorded m hm)).1
    · exact (hs.keeps (hs.returned m hm)).1

/-! ## What the two tasks do to each other -/

def LoopStep (h h' : History) : Prop :=
  (∃ out, h'.past = h.past ++ out) ∧ (h.now.fenced → h'.now.fenced) ∧
    h'.now.rows.publication = h.now.rows.publication ∧ h'.now.relay = h.now.relay

def WorkerStep (h h' : History) : Prop :=
  (∃ out, h'.past = h.past ++ out ∧ ∀ e ∈ out, e.isProcess = false) ∧
    h'.now.rows.transferOut = h.now.rows.transferOut ∧ (h.now.confirmed → h'.now.confirmed)

theorem LoopStep.refl (h : History) : LoopStep h h := ⟨⟨[], by simp⟩, id, rfl, rfl⟩

theorem LoopStep.trans {h₁ h₂ h₃} (a : LoopStep h₁ h₂) (b : LoopStep h₂ h₃) : LoopStep h₁ h₃ := by
  obtain ⟨⟨o₁, e₁⟩, f₁, p₁, r₁⟩ := a
  obtain ⟨⟨o₂, e₂⟩, f₂, p₂, r₂⟩ := b
  exact ⟨⟨o₁ ++ o₂, by rw [e₂, e₁, List.append_assoc]⟩, fun h => f₂ (f₁ h), p₂.trans p₁, r₂.trans r₁⟩

theorem WorkerStep.refl (h : History) : WorkerStep h h := ⟨⟨[], by simp, by simp⟩, rfl, id⟩

theorem WorkerStep.trans {h₁ h₂ h₃} (a : WorkerStep h₁ h₂) (b : WorkerStep h₂ h₃) : WorkerStep h₁ h₃ := by
  obtain ⟨⟨o₁, e₁, n₁⟩, t₁, c₁⟩ := a
  obtain ⟨⟨o₂, e₂, n₂⟩, t₂, c₂⟩ := b
  refine ⟨⟨o₁ ++ o₂, by rw [e₂, e₁, List.append_assoc], fun e he => ?_⟩, t₂.trans t₁, fun h => c₂ (c₁ h)⟩
  rcases List.mem_append.mp he with he | he
  · exact n₁ e he
  · exact n₂ e he

def loopPact (born : Prop) : Pact Event World where
  inv := Inv born
  rely := WorkerStep
  guar := LoopStep
  rely_refl := .refl
  rely_trans := .trans

def workerPact (born : Prop) : Pact Event World where
  inv := Inv born
  rely := LoopStep
  guar := WorkerStep
  rely_refl := .refl
  rely_trans := .trans

/-! ## Database calls -/

theorem World.read_eq {α : Type} {w t : World} {x : Outside} {f : SeatRows → α}
    {r : Except DbError α} {out : List Event} (h : w.read x f = some (r, t, out)) :
    t = w ∧ out = [] ∧ ∀ a, r = .ok a → a = f w.rows := by
  unfold World.read at h
  split at h <;> cases h
  · exact ⟨rfl, rfl, fun a h => by cases h⟩
  · exact ⟨rfl, rfl, fun a h => by cases h; rfl⟩

theorem World.writeEmit_eq {α : Type} {w t : World} {x : Outside}
    {f : SeatRows → SeatRows × Except DbError α} {emit : α → List Event} {r : Except DbError α}
    {out : List Event} (h : w.writeEmit x f emit = some (r, t, out)) :
    (t = w ∧ out = [] ∧ ∃ e, r = .error e) ∨
      (t = { w with rows := (f w.rows).1 } ∧ r = (f w.rows).2 ∧
        out = match (f w.rows).2 with
          | .ok a => emit a
          | .error _ => []) := by
  unfold World.writeEmit at h
  split at h <;> cases h
  · exact .inl ⟨rfl, rfl, _, rfl⟩
  · exact .inr ⟨rfl, rfl, rfl⟩

theorem World.write_eq {α : Type} {w t : World} {x : Outside}
    {f : SeatRows → SeatRows × Except DbError α} {r : Except DbError α} {out : List Event}
    (h : w.write x f = some (r, t, out)) :
    out = [] ∧ ((t = w ∧ ∃ e, r = .error e) ∨ (t = { w with rows := (f w.rows).1 } ∧ r = (f w.rows).2)) := by
  rcases World.writeEmit_eq h with ⟨h1, h2, h3⟩ | ⟨h1, h2, h3⟩
  · exact ⟨h2, Or.inl ⟨h1, h3⟩⟩
  · refine ⟨?_, Or.inr ⟨h1, h2⟩⟩
    rw [h3]; split <;> rfl

end Manifold.Guardian.Seat

namespace Manifold.Guardian.SeatRows

def SameFence (r r' : SeatRows) : Prop :=
  r'.transferOut = r.transferOut ∧ r'.publication = r.publication

theorem SameFence.refl (r : SeatRows) : SameFence r r := ⟨rfl, rfl⟩

variable (r : SeatRows)

theorem decommission_sameFence (now : Int) : SameFence r (r.decommission now).1 := by
  unfold decommission; split <;> exact ⟨rfl, rfl⟩

theorem recordFormed_sameFence (invite : InviteCode) (now : Int) : SameFence r (r.recordFormed invite now).1 := by
  unfold recordFormed; split <;> exact ⟨rfl, rfl⟩

theorem recordDkgInputs_sameFence (codes : List GuardianCode) : SameFence r (r.recordDkgInputs codes).1 := by
  unfold recordDkgInputs
  split
  · split <;> exact ⟨rfl, rfl⟩
  · exact ⟨rfl, rfl⟩

theorem admitTransfer_spec (signed : SignedGrant) (verified : Option SeatTransferGrant)
    (callback : Option (BitVec 256)) (available : Except DbError Bool) :
    SameFence r (r.admitTransfer signed verified callback available).1 ∧
      ∀ record, (r.admitTransfer signed verified callback available).2 = .ok (some record) → r.transferOut = none := by
  unfold admitTransfer
  split
  · exact ⟨.refl r, fun _ h => by cases h⟩
  split
  · exact ⟨.refl r, fun _ h => by cases h⟩
  rename_i hr
  have hnone : r.transferOut = none := by
    simp only [isRetired, active, not_or] at hr
    cases ho : r.transferOut with
    | none => rfl
    | some _ => simp [ho] at hr
  dsimp only
  split
  · split <;> exact ⟨.refl r, fun _ _ => hnone⟩
  · split
    · exact ⟨.refl r, fun _ _ => hnone⟩
    · split <;> exact ⟨⟨rfl, rfl⟩, fun _ _ => hnone⟩

theorem acceptTransfer_spec (binding : TransferMove) (keys : ImportedKeys) (invite : InviteCode)
    (now : Int) :
    SameFence r (r.acceptTransfer binding keys invite now).1 ∧
      ((r.acceptTransfer binding keys invite now).2 = .ok true → r.transferOut = none) := by
  unfold acceptTransfer
  split
  · exact ⟨.refl r, fun h => by cases h⟩
  split
  · exact ⟨.refl r, fun h => by cases h⟩
  split
  · exact ⟨.refl r, fun h => by cases h⟩
  rename_i hr
  have hnone : r.transferOut = none := by
    simp only [isRetired, active, not_or] at hr
    cases ho : r.transferOut with
    | none => rfl
    | some _ => simp [ho] at hr
  split <;> exact ⟨⟨rfl, rfl⟩, fun _ => hnone⟩

theorem retireForTransfer_cases :
    (r.retireForTransfer = (r, false)) ∨
      (r.transferOut = none ∧ r.retireForTransfer = ({ r with transferOut := some .stopped }, true)) := by
  unfold retireForTransfer
  split
  · rename_i h
    refine .inr ⟨?_, rfl⟩
    simp only [canRetire, Bool.and_eq_true] at h
    simpa using h.2
  · exact .inl rfl

theorem recordTransferRemoval_cases :
    (r.recordTransferRemoval = (r, false)) ∨
      (r.transferOut = some .stopped ∧
        r.recordTransferRemoval = ({ r with transferOut := some .removed, transferIn := none }, true)) := by
  unfold recordTransferRemoval
  split
  · rename_i h
    exact .inr ⟨h, rfl⟩
  · exact .inl rfl

end Manifold.Guardian.SeatRows

namespace Manifold.Guardian.Seat

open Lib (Hist Pact)

/-! ## Questions that leave the fence alone -/

def World.Quiet (w t : World) : Prop := SeatRows.SameFence w.rows t.rows ∧ t.relay = w.relay

def Ask.quiet : Ask → Bool
  | .retireForTransfer | .recordTransferRemoval | .recordBackupPublication _ _ _ _ | .startChild
  | .stopChild _ | .observe _ | .publish _ _ | .replyMaterial _ => false
  | _ => true

theorem World.write_quiet {α : Type} {w t : World} {x : Outside}
    {f : SeatRows → SeatRows × Except DbError α} {r : Except DbError α} {out : List Event}
    (hf : SeatRows.SameFence w.rows (f w.rows).1) (h : w.write x f = some (r, t, out)) :
    out = [] ∧ w.Quiet t := by
  obtain ⟨rfl, ⟨rfl, -⟩ | ⟨rfl, -⟩⟩ := World.write_eq h
  · exact ⟨rfl, .refl _, rfl⟩
  · exact ⟨rfl, hf, rfl⟩

theorem World.read_quiet {α : Type} {w t : World} {x : Outside} {f : SeatRows → α}
    {r : Except DbError α} {out : List Event} (h : w.read x f = some (r, t, out)) :
    out = [] ∧ w.Quiet t := by
  obtain ⟨rfl, rfl, -⟩ := World.read_eq h
  exact ⟨rfl, .refl _, rfl⟩

theorem World.answer_quiet {α : Type} {w t : World} {a r : α} {out : List Event}
    (h : w.answer a = some (r, t, out)) : out = [] ∧ w.Quiet t := by
  cases h
  exact ⟨rfl, .refl _, rfl⟩

theorem handler_quiet {e} (he : e.quiet = true) {w t x r out} (h : handler e w x = some (r, t, out)) :
    out = [] ∧ w.Quiet t := by
  cases e with
  | retireForTransfer | recordTransferRemoval | recordBackupPublication | startChild | stopChild
  | observe | publish | replyMaterial => cases he
  | admitTransfer signed verified callback =>
    exact World.write_quiet (SeatRows.admitTransfer_spec _ _ _ _ _).1 h
  | acceptTransfer binding keys invite => exact World.write_quiet (SeatRows.acceptTransfer_spec _ _ _ _ _).1 h
  | recordDkgInputs codes => exact World.write_quiet (SeatRows.recordDkgInputs_sameFence _ _) h
  | recordFormed invite => exact World.write_quiet (SeatRows.recordFormed_sameFence _ _ _) h
  | decommissionSeat => exact World.write_quiet (SeatRows.decommission_sameFence _ _) h
  | formedFederationInvite | decommissionedAtMs | outgoingTransfer | incomingTransfer
  | backupPublication | dkgInputs | seatRecoveryFacts =>
    simp only [handler] at h
    exact World.read_quiet h
  | clock | elapsed | nowSecs | dataDirExists | seatDirExists | readGuardianArchive | removeDataDir
  | removeStaging | writeStaging | renameStaging | syncSeatDir | drivenClient | pendingEvents
  | nextEvent | runDkg | probe | shutdownAfterCurrentSession => exact World.answer_quiet h

theorem Inv.quiet {born h out t} (hi : Inv born h) (hq : h.now.Quiet t) (one : out = [] ∨ ∃ e, out = [e])
    (hout : ∀ e ∈ out, e.isProcess = true ∧ e.isStart = false) : Inv born (h.snoc out t) := by
  obtain ⟨⟨ho, hp⟩, hr⟩ := hq
  have hfence : t.fenced ↔ h.now.fenced := by unfold World.fenced; rw [ho]
  have hconf : t.confirmed ↔ h.now.confirmed := by unfold World.confirmed; rw [hp]
  refine hi.step ⟨one, hfence.mpr, fun hm => ?_, fun ht => Or.inl (hfence.mp ht), fun e he hst => ?_,
    fun m hm => ?_, fun hc => ⟨hconf.mpr hc, fun e he => ?_⟩, fun hc => ?_⟩
  · exact absurd (hout _ hm).1 (by simp [Event.isProcess])
  · exact absurd (hout e he).2 (by simp [hst])
  · exact absurd (hout _ hm).1 (by simp [Event.isProcess])
  · have := (hout e he).1
    cases e <;> simp [Event.isProcess, Event.keepsFence] at this ⊢
  obtain ⟨h1, h2, h3⟩ := hi.confirmed (hconf.mp hc)
  refine ⟨hfence.mpr h1, ?_, h3.append out⟩
  unfold World.relayFenced at h2 ⊢
  rwa [hr]

theorem LoopStep.quiet {h t} (hq : h.now.Quiet t) (out : List Event) : LoopStep h (h.snoc out t) := by
  obtain ⟨⟨ho, hp⟩, hr⟩ := hq
  refine ⟨⟨out, rfl⟩, fun hf => ?_, hp, hr⟩
  unfold World.fenced at hf ⊢
  rw [Hist.snoc_now, ho]
  exact hf

end Manifold.Guardian.Seat
