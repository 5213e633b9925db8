import Manifold.Guardian.Lemmas.SeatLoop

/-!
# Transfers, commands and turns of the seat loop
-/

namespace Manifold.Guardian.Seat

open Lib Lib.Routine

variable {born : Prop} {Φ : History → Prop} {m : SeatLoop} {h h' : History}

theorem Ok.any (hm : Ok Φ m h) : Ok anyHist m h := ⟨hm.1, trivial⟩

/-! ## Writing the fence -/

theorem handler_retireForTransfer {w t x r out} (h : handler .retireForTransfer w x = some (r, t, out)) :
    (w.Quiet t ∧ out = [] ∧ r ≠ .ok true) ∨
      (¬ w.fenced ∧ t.fenced ∧ t.rows.publication = w.rows.publication ∧ t.relay = w.relay ∧
        out = [.fenced] ∧ r = .ok true) := by
  simp only [handler] at h
  rcases World.writeEmit_eq h with ⟨rfl, rfl, e, rfl⟩ | ⟨rfl, rfl, rfl⟩
  · exact .inl ⟨⟨.refl _, rfl⟩, rfl, by simp⟩
  rcases w.rows.retireForTransfer_cases with hr | ⟨ho, hr⟩
  · rw [hr]
    exact .inl ⟨⟨.refl _, rfl⟩, rfl, by simp⟩
  · rw [hr]
    exact .inr ⟨by simp [World.fenced, ho], rfl, rfl, rfl, rfl, rfl⟩

theorem Inv.fence {t} (hi : Inv born h) (hn : ¬ h.now.fenced) (ht : t.fenced)
    (hp : t.rows.publication = h.now.rows.publication) (hj : JustExited h.past) :
    Inv born (h.snoc [.fenced] t) := by
  have hconf : ¬ h.now.confirmed := fun hc => hn (hi.confirmed hc).1
  have hconf' : ¬ t.confirmed := by
    unfold World.confirmed at hconf ⊢
    rwa [hp]
  refine hi.step ⟨Or.inr ⟨_, rfl⟩, fun hf => absurd hf hn, fun _ => ht, fun _ => Or.inr ⟨hj, rfl⟩,
    fun e he hst => ?_, fun m hm => ?_, fun hc => absurd hc hconf, fun hc => absurd hc hconf'⟩
  · rw [List.mem_singleton.mp he] at hst
    cases hst
  · cases List.mem_singleton.mp hm

theorem spec_retireForTransfer :
    LoopSpec born (Ok (fun h => JustExited h.past))
      (Verb.ask .retireForTransfer) (fun r m h => r ≠ .ok (.ok true) → Ok anyHist m h) := by
  have hΦ : Settled (fun h => JustExited h.past) :=
    ⟨fun h h' hr hj => settled_exitedWith (some sessionBoundaryExitCode) |>.worker h h' hr
      (fun _ => hj) rfl, fun h t _ hj => by simpa using hj⟩
  refine Spec.ask (fun _ _ _ hr hm => hm.stable hΦ hr) (fun _ _ _ => trivial)
    fun m h x r t out hm hi hs => ?_
  rcases handler_retireForTransfer hs with ⟨hq, rfl, hr⟩ | ⟨hn, ht, hp, hr, rfl, rfl⟩
  · exact ⟨.quiet hq _, hi.quiet hq (Or.inl rfl) (by simp), trivial, fun _ => ⟨hm.1.quiet hq, trivial⟩⟩
  · exact ⟨⟨⟨_, rfl⟩, fun hf => absurd hf hn, hp, hr⟩, hi.fence hn ht hp hm.2, trivial, fun hne => absurd rfl hne⟩

theorem spec_commitSessionBoundaryExit (code : Option Int) :
    LoopSpec born (Ok (exitedWith code))
      (Verb.commitSessionBoundaryExit code) (fun _ => Ok anyHist) := by
  unfold Verb.commitSessionBoundaryExit
  split
  · rename_i hc
    refine Spec.bind (R := fun r m h => r ≠ .ok true → Ok anyHist m h) ?_ fun r => ?_
    · refine spec_retireForTransfer.mono (fun m h hm => ⟨hm.1, hm.2 hc⟩) fun r m h hm => ?_
      cases r with
      | ok r => exact fun hne => hm (by simpa using hne)
      | error e => exact hm (by simp)
    match r with
    | .ok true =>
      refine Spec.modify_bind (S := Ok anyHist) (fun m h _ => ⟨fun _ => ⟨_, rfl⟩, trivial⟩)
        (Spec.pure fun _ _ hm => hm)
    | .ok false => exact Spec.pure fun _ _ hm => hm (by simp)
    | .error e => exact Spec.pure fun _ _ hm => hm (by simp)
  · exact Spec.pure fun _ _ hm => hm.any

theorem spec_handleChildExit (exit : Option (Option Int)) :
    LoopSpec born (Ok (exitedWith exit.join))
      (Verb.handleChildExit exit) (fun _ => Ok anyHist) := by
  have hΦ := settled_exitedWith exit.join
  refine Spec.after keeps_get (fun _ _ _ hm => hm.any) fun m => ?_
  refine Spec.after (keeps_mem fun _ => rfl) (fun _ _ _ hm => hm.any) fun _ => ?_
  refine Spec.after ((calm_ok hΦ).drainSlot m.child) (fun _ _ _ hm => hm.any) fun _ => ?_
  refine Spec.chain (spec_commitSessionBoundaryExit exit.join) fun committed => ?_
  split
  · exact returns_pure
  · exact Keeps.then (keeps_mem fun _ => rfl) fun _ => stops_ok.scheduleRespawn.returns

def Observed : ProcessObservation → SeatLoop → History → Prop
  | .exited code => Ok (exitedWith code)
  | _ => Ok anyHist

theorem spec_observe (pid : Nat) :
    LoopSpec born (Ok anyHist) (Verb.ask (.observe pid))
      (fun r m h => match r with
        | .ok o => Observed o m h
        | .error _ => Ok anyHist m h) :=
  Spec.ask (fun _ _ _ hr hm => hm.stable settled_anyHist hr) (fun _ _ _ => trivial)
    fun m h x r t out hm hi hs => by
      obtain ⟨rfl, hone, hout, hexit⟩ := handler_observe hs
      have hq : h.now.Quiet h.now := ⟨.refl _, rfl⟩
      refine ⟨.quiet hq _, hi.quiet hq hone hout, trivial, ?_⟩
      have hmir : Mirror m (h.snoc out h.now) := hm.1.quiet hq
      cases r with
      | exited code =>
        refine ⟨hmir, fun hc => ?_⟩
        rw [Hist.snoc_past, hexit code rfl, hc]
        exact ⟨h.past, pid, [], rfl, by simp⟩
      | driven | drivenError | drivenClosed | waitFailed => exact ⟨hmir, trivial⟩

theorem spec_handleProcessObservation (o : ProcessObservation) :
    LoopSpec born (Observed o) (Verb.handleProcessObservation o)
      (fun _ => Ok anyHist) := by
  cases o with
  | exited code => exact spec_handleChildExit (some code)
  | waitFailed => exact (spec_handleChildExit none).mono (fun m h hm => ⟨hm.1, fun hc => by cases hc⟩) (fun _ _ _ h => h)
  | drivenError | drivenClosed | driven => exact stops_ok.handleProcessObservation (by simp) (by simp)

/-! ## Handing the material over -/

theorem spec_backupPublication (v : Nat) :
    LoopSpec born (Ok anyHist) (Verb.tryAsk (Verb.ask (.backupPublication v)))
      (fun r m h => Ok anyHist m h ∧ ∀ p, r = .ok p →
        p.bind (·.confirmedOutgoing) = some .stopped → h.now.confirmed) := by
  refine spec_tryAsk (Spec.ask (fun _ _ _ hr hm => hm.stable settled_anyHist hr)
    (fun _ _ _ => trivial) fun m h x r t out hm hi hs => ?_)
  obtain ⟨rfl, hq⟩ := handler_quiet rfl hs
  have hok : Ok anyHist m (h.snoc [] t) := ⟨hm.1.quiet hq, trivial⟩
  refine ⟨.quiet hq _, hi.quiet hq (Or.inl rfl) (by simp), trivial, ?_⟩
  simp only [handler] at hs
  obtain ⟨rfl, -, hread⟩ := World.read_eq hs
  cases r with
  | error e => exact ⟨hok, fun p hp => by cases hp⟩
  | ok p =>
    refine ⟨hok, fun q hq' hc => ?_⟩
    cases hq'
    rw [hread p rfl, SeatRows.backupPublication] at hc
    obtain ⟨q, hq', hc⟩ := Option.bind_eq_some_iff.mp hc
    exact ⟨q, (Option.filter_eq_some_iff.mp hq').1, by simp [hc]⟩

theorem spec_transferOut (c : Config) (signed : SignedGrant) :
    LoopSpec born (Ok anyHist) (Verb.transferOut c signed)
      (fun r m h => match r with
        | .ok _ => Ok (fun h => h.now.confirmed) m h
        | .error _ => Ok anyHist m h) := by
  have hΦ := settled_anyHist
  have hc := settled_confirmed
  refine Spec.after ((calm_ok hΦ).checkSourceGrant c signed) (fun _ _ _ hm => hm) fun _ => ?_
  refine Spec.after (keeps_tryAsk (keeps_quiet hΦ rfl)) (fun _ _ _ hm => hm) fun outgoing => ?_
  match outgoing with
  | none =>
    refine Spec.after ((calm_ok hΦ).readMaterial c) (fun _ _ _ hm => hm) fun _ => ?_
    refine Spec.after (calm_ok hΦ).requestShutdown (fun _ _ _ hm => hm) fun _ => ?_
    exact Spec.throw fun _ _ h => h
  | some .removed => exact Spec.throw fun _ _ h => h
  | some .stopped =>
    refine Spec.bind (R := fun p m h => Ok anyHist m h ∧
      (p.bind (·.confirmedOutgoing) = some .stopped → h.now.confirmed)) (Spec.mono
      (spec_backupPublication c.formatVersion) (fun _ _ h => h)
      fun r m h hm => by
        cases r with
        | ok p => exact ⟨hm.1, hm.2 p rfl⟩
        | error e => exact hm.1) fun p => ?_
    refine Spec.bind (R := fun _ => Ok (fun h => h.now.confirmed)) ?_ fun _ => ?_
    · unfold Verb.rejectIf
      split
      · exact Spec.throw fun _ _ hm => hm.1
      · rename_i hne
        exact Spec.pure fun _ _ hm => ⟨hm.1.1, hm.2 (by simpa using hne)⟩
    refine Spec.mono (Spec.undropped (keeps_bind ((calm_ok hc).readMaterial c) fun material =>
      keeps_bind ((calm_ok hc).checkSourceGrant c signed) fun _ => keeps_pure)) (fun _ _ h => h)
      fun r _ _ h => ?_
    cases r with
    | ok _ => exact h
    | error _ => exact h.any

theorem Inv.hand (hi : Inv born h) (hc : h.now.confirmed) (material : TransferMaterial) :
    Inv born (h.snoc [.materialReturned material] h.now) := by
  refine hi.step ⟨Or.inr ⟨_, rfl⟩, id, fun hm => ?_, Or.inl, fun e he hst => ?_, fun _ _ => hc,
    fun _ => ⟨hc, fun e he => ?_⟩, fun _ => ?_⟩
  · cases List.mem_singleton.mp hm
  · rw [List.mem_singleton.mp he] at hst
    cases hst
  · rw [List.mem_singleton.mp he]
    rfl
  · obtain ⟨h1, h2, h3⟩ := hi.confirmed hc
    exact ⟨h1, h2, h3.append _⟩

theorem spec_replyMaterial (material : TransferMaterial) :
    LoopSpec born (Ok (fun h => h.now.confirmed))
      (Verb.ask (.replyMaterial material)) (fun _ => Ok anyHist) :=
  Spec.ask (fun _ _ _ hr hm => hm.stable settled_confirmed hr) (fun _ _ _ => trivial)
    fun m h x r t out hm hi hs => by
      cases hs
      exact ⟨.quiet ⟨.refl _, rfl⟩ _, hi.hand hm.2 material, trivial, hm.1.quiet ⟨.refl _, rfl⟩, trivial⟩

/-! ## Removing the material -/

theorem returns_recordTransferRemoval :
    Returns handler (loopPact born) (Ok anyHist) (Verb.ask .recordTransferRemoval) := by
  refine Spec.ask (fun _ _ _ hr hm => hm.stable settled_anyHist hr) (fun _ _ _ => trivial)
    fun m h x r t out hm hi hs => ?_
  obtain ⟨rfl, ⟨rfl, -⟩ | ⟨rfl, -⟩⟩ := World.write_eq hs
  · have hq : h.now.Quiet h.now := ⟨.refl _, rfl⟩
    exact ⟨.quiet hq _, hi.quiet hq (Or.inl rfl) (by simp), trivial, hm.1.quiet hq, trivial⟩
  rcases h.now.rows.recordTransferRemoval_cases with hr | ⟨ho, hr⟩
  · rw [hr]
    have hq : h.now.Quiet h.now := ⟨.refl _, rfl⟩
    exact ⟨.quiet hq _, hi.quiet hq (Or.inl rfl) (by simp), trivial, hm.1.quiet hq, trivial⟩
  rw [hr]
  have hf : h.now.fenced := by simp [World.fenced, ho]
  refine ⟨⟨⟨[], rfl⟩, fun _ => rfl, rfl, rfl⟩, hi.step ⟨Or.inl rfl, fun _ => rfl, by simp,
    fun _ => Or.inl hf, by simp, by simp, fun hc => ⟨hc, by simp⟩, fun hc => ?_⟩, trivial,
    fun _ => hm.1 hf, trivial⟩
  obtain ⟨-, h2, h3⟩ := hi.confirmed hc
  exact ⟨rfl, h2, by simpa using h3⟩

theorem returns_removeTransferred : Returns handler (loopPact born) (Ok anyHist) Verb.removeTransferred := by
  have hP : Stops handler (loopPact born) (Ok anyHist) := stops_ok
  have hdelete : Returns handler (loopPact born) (Ok anyHist) Verb.deleteMaterial := by
    refine (hP.ask rfl).then fun r => ?_
    cases r with
    | error e => exact returns_throw
    | ok u =>
      refine (hP.ask rfl).then fun present => hP.syncSeatDirIf.then fun _ => Spec.chain ?_ fun changed => ?_
      · refine spec_tryAsk (returns_recordTransferRemoval.mono (fun _ _ h => h) fun r _ _ h => ?_)
        match r with
        | .ok (.ok b) => exact h
        | .ok (.error e) => exact h
        | .error e => exact h
      · exact keeps_rejectIf.then fun _ => Spec.modify fun _ _ _ => ⟨fun _ => ⟨.removed, rfl⟩, trivial⟩
  refine keeps_rejectDecommissioned.then fun _ => keeps_get.then fun m => ?_
  split
  · exact returns_pure
  · exact Spec.chain hdelete fun _ => returns_pure
  · exact returns_throw

/-! ## The destination side -/

theorem spec_unfencing {e : Ask} (he : e.quiet = true) {good : Ans e → Prop}
    (hgood : ∀ w x r t out, handler e w x = some (r, t, out) → good r → ¬ w.fenced) :
    LoopSpec born (Ok anyHist) (Verb.ask e)
      (fun r m h => Ok anyHist m h ∧ ∀ a, r = .ok a → good a → ¬ h.now.fenced) :=
  Spec.ask (fun _ _ _ hr hm => hm.stable settled_anyHist hr) (fun _ _ _ => trivial)
    fun m h x r t out hm hi hs => by
      obtain ⟨rfl, hq⟩ := handler_quiet he hs
      refine ⟨.quiet hq _, hi.quiet hq (Or.inl rfl) (by simp), trivial, ⟨hm.1.quiet hq, trivial⟩, ?_⟩
      intro a ha hg
      cases ha
      have hn := hgood _ _ _ _ _ hs hg
      unfold World.fenced at hn ⊢
      rw [Hist.snoc_now, hq.1.1]
      exact hn

theorem handler_admitTransfer {signed verified callback w t x r out}
    (h : handler (.admitTransfer signed verified callback) w x = some (r, t, out))
    (hr : ∃ record, r = .ok (some record)) : ¬ w.fenced := by
  obtain ⟨record, rfl⟩ := hr
  obtain ⟨-, ⟨-, e, he⟩ | ⟨-, hr⟩⟩ := World.write_eq h
  · cases he
  · simp [World.fenced, (SeatRows.admitTransfer_spec _ _ _ _ _).2 record hr.symm]

theorem handler_acceptTransfer {binding keys invite w t x r out}
    (h : handler (.acceptTransfer binding keys invite) w x = some (r, t, out)) (hr : r = .ok true) :
    ¬ w.fenced := by
  subst hr
  obtain ⟨-, ⟨-, e, he⟩ | ⟨-, hr⟩⟩ := World.write_eq h
  · cases he
  · simp [World.fenced, (SeatRows.acceptTransfer_spec _ _ _ _ _).2 hr.symm]

theorem returns_admitTransfer (c : Config) (signed : SignedGrant) (serviceKey : ServicePubkey)
    (callback : Option (BitVec 256)) :
    Returns handler (loopPact born) (Ok anyHist) (Verb.admitTransfer c signed serviceKey callback) := by
  refine keeps_checkImportAllowed.then fun _ => (stops_ok.ask rfl).then fun now => ?_
  split
  · exact returns_throw
  refine keeps_get.then fun m => keeps_rejectIf.then fun _ => (stops_ok.ask rfl).then fun now => ?_
  refine Spec.bind (R := fun r m h => Ok anyHist m h ∧ (r.isSome = true → ¬ h.now.fenced))
    (spec_tryAsk ((spec_unfencing rfl fun _ _ _ _ _ hs => handler_admitTransfer hs).mono
      (fun _ _ h => h) fun r m h hm => ?_)) fun r => ?_
  · match r with
    | .ok (.ok (some record)) => exact ⟨hm.1, fun _ => hm.2 _ rfl ⟨record, rfl⟩⟩
    | .ok (.ok none) => exact ⟨hm.1, fun h => by cases h⟩
    | .ok (.error e) => exact hm.1
    | .error e => exact hm.1
  cases r with
  | none => exact Spec.throw fun _ _ hm => hm.1
  | some record =>
    refine Spec.modify_bind (S := Ok anyHist)
      (fun m h hm => ⟨Mirror.of_not_fenced (hm.2 rfl), trivial⟩) ?_
    exact Spec.chain stops_ok.stopChildIf fun _ => returns_pure

theorem spec_spawnImported (c : Config) (invite : InviteCode) :
    LoopSpec born Unfenced (Verb.spawnImported c invite)
      (fun _ => Ok anyHist) := by
  refine Spec.modify_bind (S := Unfenced) (fun m h hm => ⟨⟨Mirror.of_not_fenced hm.2, trivial⟩, hm.2⟩) ?_
  refine Spec.modify_bind (S := Unfenced) (fun m h hm => ⟨⟨Mirror.of_not_fenced hm.2, trivial⟩, hm.2⟩) ?_
  refine Spec.chain (Spec.attempt (spec_spawnChildInner c (some invite))) fun r => ?_
  cases r with
  | ok u => exact returns_pure
  | error e => exact stops_ok.scheduleRespawn.returns

theorem returns_installTransfer (c : Config) (binding : TransferMove) (guardian : ValidatedGuardian) :
    Returns handler (loopPact born) (Ok anyHist) (Verb.installTransfer c binding guardian) := by
  have hP : Stops handler (loopPact born) (Ok anyHist) := stops_ok
  refine hP.currentImport.then fun record => keeps_rejectIf.then fun _ => keeps_rejectIf.then fun _ =>
    keeps_rejectIf.then fun _ => Spec.chain hP.stopChild fun _ => Keeps.then (keeps_mem fun _ => rfl) fun _ =>
      (hP.installImportedMaterial c _).then fun _ => ?_
  refine Spec.bind (R := fun r m h => Ok anyHist m h ∧ (r = true → ¬ h.now.fenced))
    (spec_tryAsk ((spec_unfencing rfl fun _ _ _ _ _ hs => handler_acceptTransfer hs).mono
      (fun _ _ h => h) fun r m h hm => ?_)) fun accepted => ?_
  · match r with
    | .ok (.ok b) => exact ⟨hm.1, fun hb => hm.2 _ rfl (by rw [hb])⟩
    | .ok (.error e) => exact hm.1
    | .error e => exact hm.1
  refine Spec.bind (R := fun _ => Unfenced) ?_ fun _ => ?_
  · unfold Verb.rejectIf
    split
    · exact Spec.throw fun _ _ hm => hm.1
    · rename_i ha
      exact Spec.pure fun _ _ hm => ⟨hm.1, hm.2 (by simpa using ha)⟩
  · exact Spec.chain (spec_spawnImported c guardian.invite) fun _ => hP.scheduleWatchdog.returns

/-! ## One turn -/

theorem returns_serveTransferOut (c : Config) (signed : SignedGrant) :
    Returns handler (loopPact born) (Ok anyHist) (Verb.serve c (.transferOut signed)) := by
  refine Spec.bind (R := fun r m h => match r with
    | .ok _ => Ok (fun h => h.now.confirmed) m h
    | .error _ => Ok anyHist m h) (Spec.attempt (spec_transferOut c signed)) fun r => ?_
  cases r with
  | ok material => exact Spec.chain (spec_replyMaterial material) fun _ => returns_pure
  | error e => exact returns_pure

theorem serves_ok : Serves handler (loopPact born) (Ok anyHist) := by
  refine { spawns_ok with
    admitTransfer := returns_admitTransfer
    installTransfer := returns_installTransfer
    transferOut := returns_serveTransferOut
    removeTransferred := returns_removeTransferred
    observation := fun c => keeps_get.then fun m => ?_ }
  cases m.child.pid? with
  | none => exact returns_pure
  | some pid =>
    refine Spec.bind (R := Observed) ((spec_observe pid).mono (fun _ _ h => h) fun r m h hm => ?_) fun o => ?_
    · cases r <;> exact hm
    · exact Spec.chain (spec_handleProcessObservation o) fun _ => returns_pure

end Manifold.Guardian.Seat
