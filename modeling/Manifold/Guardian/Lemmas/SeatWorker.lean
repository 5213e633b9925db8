import Manifold.Guardian.Lemmas.SeatTurn

/-!
# The backup worker keeps the fence confirmed
-/

namespace Manifold.Guardian

theorem SeatRecoveryFacts.transferBackup_phase {f : SeatRecoveryFacts} {t : Option TransferBackup}
    (h : f.transferBackup = .ok t) : (t.bind (·.outgoing)).map (·.phase) = f.outgoing := by
  rcases (transferBackup_eq h).2 with ⟨ho, hf⟩ | ⟨phase, invite, ho, hf, -⟩ <;> rw [ho, hf] <;> rfl

theorem SeatRecoveryFacts.plan_outgoing {codec facts} {f : SeatRecoveryFacts} {digest read}
    {p : SeatPublication} (h : f.plan codec facts digest read = .ok p) :
    p.document.outgoingTransfer = f.outgoing := by
  unfold plan at h
  cases ha : f.archivePart codec digest read with
  | error e => rw [ha] at h; cases h
  | ok a =>
    cases ht : f.transferBackup with
    | error e => rw [ha, ht] at h; cases h
    | ok t =>
      rw [ha, ht] at h
      simp only [bind, Except.bind] at h
      split at h <;> cases h
      rw [← transferBackup_phase ht]
      cases t with
      | none => rfl
      | some t => cases ho : t.outgoing <;> simp [SeatBackupDocument.outgoingTransfer, ho]

end Manifold.Guardian

namespace Manifold.Guardian.Seat

open Lib Lib.Routine

variable {born : Prop} {h h' : History} {codec : Codec} {facts : SeatFacts}

def PlanOk (p : SeatPublication) (h : History) : Prop :=
  if p.document.outgoingTransfer.isSome then h.now.fenced else ¬ h.now.confirmed

def Landed (p : SeatPublication) (v : Nat) (h : History) : Prop :=
  h.now.relay = some (v, p.document) ∧ .confirmed v p.document ∈ h.past

def LoopStable (Ψ : History → Prop) : Prop := ∀ h h', LoopStep h h' → Ψ h → Ψ h'

theorem loopStable_planOk (p : SeatPublication) : LoopStable (PlanOk p) := by
  rintro h h' ⟨-, hf, hp, -⟩ hok
  unfold PlanOk at hok ⊢
  split at hok
  · rw [if_pos ‹_›]
    exact hf hok
  · rw [if_neg ‹_›]
    unfold World.confirmed at hok ⊢
    rwa [hp]

theorem loopStable_landed (p : SeatPublication) (v : Nat) : LoopStable (Landed p v) := by
  rintro h h' ⟨⟨out, he⟩, -, -, hr⟩ ⟨h1, h2⟩
  exact ⟨hr.trans h1, by rw [he]; exact List.mem_append_left _ h2⟩

theorem LoopStable.and {Ψ Ψ'} (h₁ : LoopStable Ψ) (h₂ : LoopStable Ψ') :
    LoopStable (fun h => Ψ h ∧ Ψ' h) := fun h h' hs hm => ⟨h₁ h h' hs hm.1, h₂ h h' hs hm.2⟩

theorem WorkerStep.quiet {t} (hq : h.now.Quiet t) : WorkerStep h (h.snoc [] t) := by
  refine ⟨⟨[], rfl, by simp⟩, hq.1.1, fun hc => ?_⟩
  unfold World.confirmed at hc ⊢
  rw [Hist.snoc_now, hq.1.2]
  exact hc

abbrev WorkSpec {α : Type} (born : Prop) (Ψ : History → Prop) (p : Work α)
    (Q : Except String α → History → Prop) : Prop :=
  Spec handler (workerPact born) (fun _ _ => True) (fun _ h => Ψ h) p (fun r _ h => Q r h)

theorem work_quiet {Ψ} (hΨ : LoopStable Ψ) {e} (he : e.quiet = true) :
    Keeps handler (workerPact born) (fun _ h => Ψ h) (Work.ask e) :=
  keeps_ask (fun _ h h' hr hm => hΨ h h' hr hm) fun m h x r t out hm hi hs => by
    obtain ⟨rfl, hq⟩ := handler_quiet he hs
    exact ⟨.quiet hq, hi.quiet hq (Or.inl rfl) (by simp), hΨ _ _ (.quiet hq _) hm⟩

theorem work_tryAsk {χ α : Type} {B P : Unit → History → Prop} {v : Work (Except χ α)}
    {Q : Except String α → Unit → History → Prop}
    (hv : Spec handler (workerPact born) B P v (fun r m h => ∀ e, Q (r >>= (·.mapError fun _ => e)) m h)) :
    Spec handler (workerPact born) B P (Work.tryAsk v) Q := by
  refine Spec.bind (R := fun r m h => ∀ e, Q (r.mapError fun _ => e) m h)
    (hv.mono (fun _ _ h => h) fun r m h hm => ?_) fun r => ?_
  · cases r with
    | ok r => exact hm
    | error e => exact hm e
  · cases r with
    | ok a => exact Spec.pure fun _ _ h => h ""
    | error e => exact Spec.throw fun _ _ h => h _

theorem work_seatRecoveryFacts {Ψ} (hΨ : LoopStable Ψ) :
    WorkSpec born Ψ (Work.tryAsk (Work.ask .seatRecoveryFacts)) (fun r h => Ψ h ∧
      ∀ f, r = .ok f → ∀ p : SeatPublication, p.document.outgoingTransfer = f.outgoing → PlanOk p h) := by
  refine work_tryAsk (Spec.ask (fun _ h h' hr hm => hΨ h h' hr hm) (fun _ _ _ => trivial)
    fun m h x r t out hm hi hs => ?_)
  obtain ⟨rfl, hq⟩ := handler_quiet rfl hs
  have hkept : Ψ (h.snoc [] t) := hΨ _ _ (.quiet hq _) hm
  have hinv : Inv born (h.snoc [] t) := hi.quiet hq (Or.inl rfl) (by simp)
  refine ⟨.quiet hq, hinv, trivial, ?_⟩
  obtain ⟨rfl, -, hread⟩ := World.read_eq hs
  cases r with
  | error e => exact fun _ => ⟨hkept, fun f hf => by cases hf⟩
  | ok f =>
    refine fun _ => ⟨hkept, fun g hg p hp => ?_⟩
    cases hg
    have ho : p.document.outgoingTransfer = h.now.rows.transferOut := by rw [hp, hread f rfl]; rfl
    unfold PlanOk
    rw [ho]
    split
    · assumption
    · rename_i hn
      exact fun hc => hn (hi.confirmed hc).1

theorem work_seatPublicationPlan {Ψ} (hΨ : LoopStable Ψ) (digest : Option String) :
    WorkSpec born Ψ (Work.seatPublicationPlan codec facts digest)
      (fun r h => Ψ h ∧ ∀ p, r = .ok p → PlanOk p h) := by
  refine Spec.bind (R := fun f _ h => Ψ h ∧
    ∀ p : SeatPublication, p.document.outgoingTransfer = f.outgoing → PlanOk p h)
    ((work_seatRecoveryFacts hΨ).mono (fun _ _ h => h) fun r m h hm => ?_) fun f => ?_
  · cases r with
    | ok f => exact ⟨hm.1, hm.2 f rfl⟩
    | error e => exact ⟨hm.1, fun p hp => by cases hp⟩
  have hstable : LoopStable (fun h => Ψ h ∧
      ∀ p : SeatPublication, p.document.outgoingTransfer = f.outgoing → PlanOk p h) :=
    hΨ.and fun h h' hs hm p hp => loopStable_planOk p h h' hs (hm p hp)
  have hplan : ∀ read, WorkSpec born (fun h => Ψ h ∧
      ∀ p : SeatPublication, p.document.outgoingTransfer = f.outgoing → PlanOk p h)
      (Routine.ofExcept (f.plan codec facts digest read)) (fun r h => Ψ h ∧ ∀ p, r = .ok p → PlanOk p h) :=
    fun read => Spec.ofExcept fun _ h hm =>
      ⟨hm.1, fun p hp => hm.2 p (SeatRecoveryFacts.plan_outgoing hp)⟩
  split
  · exact Spec.after (keeps_workTryAsk (work_quiet hstable rfl))
      (fun e _ h hm => ⟨hm.1, fun p hp => by cases hp⟩) hplan
  · exact hplan none

/-! ## Publishing -/

theorem handler_publish {p v w t x r out} (h : handler (.publish p v) w x = some (r, t, out)) :
    t.rows = w.rows ∧ (t.relay = w.relay ∨ t.relay = some (v, p.document)) ∧
      (out = [] ∨ out = [.confirmed v p.document]) ∧
      (r = .ok () → t.relay = some (v, p.document) ∧ out = [.confirmed v p.document]) := by
  simp only [handler] at h
  cases hx : x.publish with
  | confirmed => rw [hx] at h; cases h; exact ⟨rfl, Or.inr rfl, Or.inr rfl, fun _ => ⟨rfl, rfl⟩⟩
  | landedUnconfirmed => rw [hx] at h; cases h; exact ⟨rfl, Or.inr rfl, Or.inl rfl, fun h => by cases h⟩
  | lost => rw [hx] at h; cases h; exact ⟨rfl, Or.inl rfl, Or.inl rfl, fun h => by cases h⟩

theorem Inv.publish {p v t out} (hi : Inv born h) (hp : PlanOk p h) (hrows : t.rows = h.now.rows)
    (hrelay : t.relay = h.now.relay ∨ t.relay = some (v, p.document))
    (hout : out = [] ∨ out = [.confirmed v p.document]) : Inv born (h.snoc out t) := by
  have hfence : t.fenced ↔ h.now.fenced := by unfold World.fenced; rw [hrows]
  have hconf : t.confirmed ↔ h.now.confirmed := by unfold World.confirmed; rw [hrows]
  have hdoc : h.now.confirmed → p.document.outgoingTransfer.isSome = true := by
    intro hc
    unfold PlanOk at hp
    split at hp
    · assumption
    · exact absurd hc hp
  refine hi.step ⟨hout.imp_right fun h => ⟨_, h⟩, hfence.mpr, fun hm => ?_, fun hf => Or.inl (hfence.mp hf),
    fun e he hst => ?_, fun m hm => ?_, fun hc => ⟨hconf.mpr hc, fun e he => ?_⟩, fun hc => ?_⟩
  · rcases hout with rfl | rfl
    · cases hm
    · cases List.mem_singleton.mp hm
  · rcases hout with rfl | rfl
    · cases he
    · rw [List.mem_singleton.mp he] at hst
      cases hst
  · rcases hout with rfl | rfl
    · cases hm
    · cases List.mem_singleton.mp hm
  · rcases hout with rfl | rfl
    · cases he
    · rw [List.mem_singleton.mp he]
      exact hdoc hc
  obtain ⟨h1, h2, h3⟩ := hi.confirmed (hconf.mp hc)
  refine ⟨hfence.mpr h1, ?_, h3.append out⟩
  rcases hrelay with hr | hr
  · unfold World.relayFenced at h2 ⊢
    rwa [hr]
  · exact ⟨v, p.document, hr, hdoc (hconf.mp hc)⟩

theorem WorkerStep.publish {p : SeatPublication} {v} {t : World} {out} (hrows : t.rows = h.now.rows)
    (hout : out = [] ∨ out = [.confirmed v p.document]) :
    WorkerStep h (h.snoc out t) := by
  refine ⟨⟨out, rfl, fun e he => ?_⟩, by rw [Hist.snoc_now, hrows], fun hc => ?_⟩
  · rcases hout with rfl | rfl
    · cases he
    · rw [List.mem_singleton.mp he]
      rfl
  · unfold World.confirmed at hc ⊢
    rwa [Hist.snoc_now, hrows]

theorem work_publish (p : SeatPublication) (v : Nat) :
    Spec handler (workerPact born) (fun _ h => PlanOk p h) (fun _ h => PlanOk p h)
      (Work.ask (.publish p v)) (fun r _ h => PlanOk p h ∧ (r = .ok (.ok ()) → Landed p v h)) := by
  refine Spec.ask (fun _ h h' hr hm => loopStable_planOk p h h' hr hm) (fun _ _ hm => hm)
    fun m h x r t out hm hi hs => ?_
  obtain ⟨hrows, hrelay, hout, hok⟩ := handler_publish hs
  have hplan : PlanOk p (h.snoc out t) := by
    unfold PlanOk World.fenced World.confirmed at hm ⊢
    rwa [Hist.snoc_now, hrows]
  refine ⟨.publish hrows hout, hi.publish hm hrows hrelay hout, hplan, hplan, fun hr => ?_⟩
  obtain ⟨h1, h2⟩ := hok (by simpa using hr)
  exact ⟨h1, by simp [h2]⟩

theorem work_publishConfirmed (p : SeatPublication) (v : Nat) :
    WorkSpec born (PlanOk p) (Work.publishConfirmed p v)
      (fun r h => PlanOk p h ∧ (r = .ok () → Landed p v h)) := by
  refine Spec.bind (R := fun r _ h => PlanOk p h ∧ (r = some (.ok (.ok ())) → Landed p v h)) ?_ fun r => ?_
  · refine Spec.undropped (Spec.timeout ?_ WorkerStep.refl
      (fun _ h h' hr hm => loopStable_planOk p h h' hr hm) (work_publish p v) (fun r m h hm => ?_)
      (fun m h hm => ?_))
    · intro s x r t out hs
      cases hs
      exact ⟨rfl, rfl⟩
    · exact ⟨hm.1, fun hr => hm.2 (by simpa using hr)⟩
    · exact ⟨hm, fun hr => by cases hr⟩
  match r with
  | none => exact Spec.throw fun _ _ hm => ⟨hm.1, fun hr => by cases hr⟩
  | some (.error e) => exact Spec.throw fun _ _ hm => ⟨hm.1, fun hr => by cases hr⟩
  | some (.ok (.error e)) => exact Spec.throw fun _ _ hm => ⟨hm.1, fun hr => by cases hr⟩
  | some (.ok (.ok u)) => exact Spec.pure fun _ _ hm => ⟨hm.1, fun _ => hm.2 rfl⟩

/-! ## Recording -/

theorem handler_recordBackupPublication {sha digest outgoing v w t x r out}
    (h : handler (.recordBackupPublication sha digest outgoing v) w x = some (r, t, out)) :
    (t = w ∧ out = []) ∨ (t.rows.transferOut = w.rows.transferOut ∧ t.relay = w.relay ∧
      (t.confirmed ↔ outgoing.isSome = true) ∧ out = [.recorded sha outgoing v]) := by
  simp only [handler] at h
  rcases World.writeEmit_eq h with ⟨rfl, rfl, -⟩ | ⟨rfl, -, rfl⟩
  · exact .inl ⟨rfl, rfl⟩
  refine .inr ⟨rfl, rfl, ⟨?_, fun ho => ⟨_, rfl, ho⟩⟩, rfl⟩
  rintro ⟨q, hq, ho⟩
  cases hq
  exact ho

theorem Inv.record {p v t} (hi : Inv born h) (sha : String) (hp : PlanOk p h) (hl : Landed p v h)
    (hfence : t.rows.transferOut = h.now.rows.transferOut) (hrelay : t.relay = h.now.relay)
    (hconf : t.confirmed ↔ p.document.outgoingTransfer.isSome = true) :
    Inv born (h.snoc [.recorded sha p.document.outgoingTransfer v] t) ∧ (h.now.confirmed → t.confirmed) := by
  have hdoc : h.now.confirmed → p.document.outgoingTransfer.isSome = true := by
    intro hc
    unfold PlanOk at hp
    split at hp
    · assumption
    · exact absurd hc hp
  have hf : t.fenced ↔ h.now.fenced := by unfold World.fenced; rw [hfence]
  refine ⟨hi.step ⟨Or.inr ⟨_, rfl⟩, hf.mpr, fun hm => ?_, fun ht => Or.inl (hf.mp ht), fun e he hst => ?_,
    fun m hm => ?_, fun hc => ⟨hconf.mpr (hdoc hc), fun e he => ?_⟩, fun hc => ?_⟩,
    fun hc => hconf.mpr (hdoc hc)⟩
  · cases List.mem_singleton.mp hm
  · rw [List.mem_singleton.mp he] at hst
    cases hst
  · cases List.mem_singleton.mp hm
  · rw [List.mem_singleton.mp he]
    exact hdoc hc
  have ho := hconf.mp hc
  unfold PlanOk at hp
  rw [if_pos ho] at hp
  exact ⟨hf.mpr hp, ⟨v, p.document, hrelay.trans hl.1, ho⟩, v, p.document, List.mem_append_left _ hl.2, ho⟩

theorem work_record (p : SeatPublication) (v : Nat) (sha : String) (digest : Option String) :
    WorkSpec born (fun h => PlanOk p h ∧ Landed p v h)
      (Work.ask (.recordBackupPublication sha digest p.document.outgoingTransfer v))
      (fun _ _ => True) := by
  refine Spec.ask (fun _ h h' hr hm => (loopStable_planOk p).and (loopStable_landed p v) h h' hr hm)
    (fun _ _ _ => trivial) fun m h x r t out hm hi hs => ?_
  rcases handler_recordBackupPublication hs with ⟨rfl, rfl⟩ | ⟨hf, hr, hc, rfl⟩
  · have hq : h.now.Quiet h.now := ⟨.refl _, rfl⟩
    exact ⟨.quiet hq, hi.quiet hq (Or.inl rfl) (by simp), trivial, trivial⟩
  · obtain ⟨hinv, hkeep⟩ := hi.record sha hm.1 hm.2 hf hr hc
    exact ⟨⟨⟨_, rfl, by simp [Event.isProcess]⟩, hf, hkeep⟩, hinv, trivial, trivial⟩

theorem work_reconcileSeat (v : Nat) :
    WorkSpec born (fun _ => True) (Work.reconcileSeat codec facts v) (fun _ _ => True) := by
  have htriv : LoopStable (fun _ => True) := fun _ _ _ _ => trivial
  refine Spec.after (keeps_workTryAsk (work_quiet htriv rfl)) (fun _ _ _ _ => trivial) fun recorded => ?_
  refine Spec.bind (R := fun p _ h => PlanOk p h) ((work_seatPublicationPlan htriv _).mono
    (fun _ _ h => h) fun r m h hm => ?_) fun p => ?_
  · cases r with
    | ok p => exact hm.2 p rfl
    | error e => exact trivial
  split
  · exact Spec.pure fun _ _ _ => trivial
  refine Spec.bind (R := fun _ _ h => PlanOk p h ∧ Landed p v h) ((work_publishConfirmed p v).mono
    (fun _ _ h => h) fun r m h hm => ?_) fun _ => ?_
  · cases r with
    | ok u => exact ⟨hm.1, hm.2 rfl⟩
    | error e => exact trivial
  have hstable := (loopStable_planOk p).and (loopStable_landed p v)
  refine Spec.bind (R := fun _ _ h => PlanOk p h ∧ Landed p v h)
    ((work_seatPublicationPlan hstable _).mono (fun _ _ h => h) fun r m h hm => ?_) fun current => ?_
  · cases r with
    | ok q => exact hm.1
    | error e => exact trivial
  refine Spec.bind (R := fun _ _ h => PlanOk p h ∧ Landed p v h) ?_ fun _ => ?_
  · unfold Work.rejectIf
    split
    · exact Spec.throw fun _ _ _ => trivial
    · exact Spec.pure fun _ _ hm => hm
  exact work_tryAsk ((work_record p v _ _).mono (fun _ _ h => h) fun _ _ _ _ _ => trivial)

end Manifold.Guardian.Seat
