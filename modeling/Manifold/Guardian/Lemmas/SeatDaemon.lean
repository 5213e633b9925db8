import Manifold.Guardian.Lemmas.SeatWorker

/-!
# The fence under any number of daemons
-/

namespace Manifold.Guardian.Seat

open Lib Lib.Routine

variable {born : Prop} {es : List Event} {s : State}

/-! ## Opening a seat -/

theorem open_quiet {Ψ} (hΨ : Settled Ψ) {e} (he : e.quiet = true) :
    Keeps handler (loopPact born) (fun _ h => Ψ h) (Work.ask e) :=
  keeps_ask (fun _ h h' hr hm => hΨ.worker h h' hr hm) fun m h x r t out hm hi hs => by
    obtain ⟨rfl, hq⟩ := handler_quiet he hs
    exact ⟨.quiet hq _, hi.quiet hq (Or.inl rfl) (by simp), hΨ.quiet h t hq hm⟩

theorem settled_unfenced : Settled (fun h => ¬ h.now.fenced) where
  worker := fun h h' hr hn => by
    unfold World.fenced at hn ⊢
    rwa [hr.2.1]
  quiet := fun h t hq hn => by
    unfold World.fenced at hn ⊢
    rw [Hist.snoc_now, hq.1.1]
    exact hn

theorem open_outgoingTransfer :
    LoopSpec born (fun _ h => anyHist h)
      (Work.tryAsk (Work.ask .outgoingTransfer) : Work (Option OutgoingTransfer))
      (fun r _ h => r = .ok none → ¬ h.now.fenced) := by
  refine Spec.bind (R := fun r _ h => r = .ok none → ¬ h.now.fenced) (Spec.ask (fun _ _ _ _ _ => trivial)
    (fun _ _ _ => trivial) fun m h x r t out hm hi hs => ?_) fun r => ?_
  · obtain ⟨rfl, hq⟩ := handler_quiet rfl hs
    refine ⟨.quiet hq _, hi.quiet hq (Or.inl rfl) (by simp), trivial, fun hr => ?_⟩
    obtain ⟨rfl, -, hread⟩ := World.read_eq hs
    have hnone : h.now.rows.transferOut = none := (hread none hr).symm
    simp [World.fenced, hnone]
  · cases r with
    | ok o => exact Spec.pure fun _ _ hm ho => hm (by simpa using ho)
    | error e => exact Spec.throw fun _ _ _ ho => by cases ho

theorem spec_openSeat (facts : SeatFacts) (keys : SeatKeys) :
    LoopSpec born (fun _ h => anyHist h) (openSeat facts keys)
      (fun r _ h => ∀ m, r = .ok m → Ok anyHist m h) := by
  refine Spec.after (keeps_workTryAsk (open_quiet settled_anyHist rfl)) (fun _ _ _ _ _ hm => by cases hm)
    fun decommissioned => ?_
  refine Spec.after (keeps_workTryAsk (open_quiet settled_anyHist rfl)) (fun _ _ _ _ _ hm => by cases hm)
    fun formed => ?_
  refine Spec.bind (R := fun r _ h => r = none → ¬ h.now.fenced) (open_outgoingTransfer.mono
    (fun _ _ h => h) fun r m h hm => ?_) fun outgoing => ?_
  · cases r with
    | ok o => exact fun ho => hm (by rw [ho])
    | error e => exact fun m hm => by cases hm
  cases outgoing with
  | some o =>
    refine Spec.pure fun _ h _ m hm => ?_
    cases hm
    exact ⟨fun _ => ⟨o, rfl⟩, trivial⟩
  | none =>
    refine Spec.mono (P := fun _ h => ¬ h.now.fenced) ?_ (fun _ _ hm => hm rfl) (fun _ _ _ h => h)
    refine Spec.after (keeps_workTryAsk (open_quiet settled_unfenced rfl)) (fun _ _ _ _ _ hm => by cases hm)
      fun incoming => ?_
    exact Spec.pure fun _ h hn m _ => ⟨Mirror.of_not_fenced hn, trivial⟩

/-! ## The tasks of a daemon -/

def ScanSafe (born : Prop) (h : History) (t : Scan) : Prop :=
  t.Safe handler (workerPact born) (fun _ _ => True) (fun _ _ _ => True) h

theorem scans_safe : Scans (loopPact born) (ScanSafe born) where
  stable ht hr := Task.Safe.stable ht hr (fun _ _ _ _ _ => trivial) fun _ _ _ _ _ _ => trivial
  begins h _ _ v := work_reconcileSeat v () h trivial
  resumes hi ht hs := resume_safe ht hi (fun _ _ _ _ => rfl) hs

abbrev Sound (born : Prop) : List Event → State → Prop :=
  Tasks handler (loopPact born) (Ok anyHist) (ScanSafe born)

theorem sound_step {a s' out} (hs : Sound born es s) (h : step s a = some (s', out)) : Sound born (es ++ out) s' :=
  hs.step serves_ok scans_safe (fun _ keys _ _ => spec_openSeat s.world.rows.facts keys () _ trivial)
    (fun _ _ _ _ _ _ => rfl) h

theorem Sound.of_init (h : init s) : Sound False [] s := by
  obtain ⟨hd, ho, hp⟩ := h
  have hn : ¬ s.world.fenced := by simp [World.fenced, ho]
  have hc : ¬ s.world.confirmed := by
    rintro ⟨p, h1, h2⟩
    simp [hp p h1] at h2
  refine ⟨⟨fun hf => absurd hf hn, by simp, by simp, fun h => h.elim, fun h => absurd h hc, by simp,
    by simp⟩, fun d h => ?_, fun d t h => ?_⟩
  · rw [hd] at h
    cases h
  · rw [hd] at h
    cases h

theorem Sound.of_restored {rows} (h : rows.transferOut.isSome = true) (hp : rows.publication = none)
    (relay : Option (Nat × SeatBackupDocument)) :
    Sound True [] (restored rows relay) := by
  have hc : ¬ (restored rows relay).world.confirmed := by
    rintro ⟨p, h1, -⟩
    rw [show (restored rows relay).world.rows = rows from rfl, hp] at h1
    cases h1
  exact ⟨⟨fun _ hb => absurd trivial hb, by simp, by simp, fun _ => ⟨h, by simp⟩,
    fun h => absurd h hc, by simp, by simp⟩, fun d h => (by cases h), fun d t h => (by cases h)⟩

theorem Sound.of_reaches (h : machine.Reaches es s) : Sound False es s :=
  Machine.Reaches.induct (I := Sound False) (fun _ hi => .of_init hi)
    (fun _ _ _ _ _ _ hs hst => sound_step hs hst) h

theorem Sound.run_restored {s₀} (h₀ : Sound True [] s₀) (h : machine.Run s₀ es s) : Sound True es s := by
  induction h with
  | nil => exact h₀
  | snoc a _ hst ih => exact sound_step ih hst

/-! ## Restoring a document -/

theorem restoredRows_fenced {d : SeatBackupDocument} {seatNo now} {rows : SeatRows}
    (h : d.restoredRows seatNo now = .ok rows) :
    rows.transferOut = d.outgoingTransfer ∧ rows.publication = none := by
  have hout : (d.transfer.bind (·.outgoing)).map (·.phase) = d.outgoingTransfer := by
    unfold SeatBackupDocument.outgoingTransfer
    cases ht : d.transfer with
    | none => rfl
    | some t => cases ho : t.outgoing <;> simp [ho]
  unfold SeatBackupDocument.restoredRows at h
  dsimp only at h
  rw [hout] at h
  split at h
  · split at h <;> cases h
    exact ⟨rfl, rfl⟩
  · cases h
    exact ⟨rfl, rfl⟩

theorem install_fenced {codec key} {d : SeatBackupDocument} {seatNo now} {rows : SeatRows}
    (h : d.install codec key seatNo now = .ok rows) :
    rows.transferOut = d.outgoingTransfer ∧ rows.publication = none := by
  unfold SeatBackupDocument.install at h
  simp only [bind, Except.bind] at h
  split at h
  · cases h
  split at h
  · cases h
  cases hr : d.restoredRows seatNo now with
  | error e => rw [hr] at h; cases h
  | ok r =>
    rw [hr] at h
    cases h
    exact restoredRows_fenced hr

end Manifold.Guardian.Seat
