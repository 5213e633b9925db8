import Manifold.Guardian.Lemmas.SeatTasks

/-!
# The seat loop keeps the fence
-/

namespace Manifold.Guardian.Seat

open Lib Lib.Routine

def Mirror (m : SeatLoop) (h : History) : Prop :=
  h.now.fenced → ∃ p, m.transferPhase = some (.outgoing p)

structure Settled (Φ : History → Prop) : Prop where
  worker : ∀ h h', WorkerStep h h' → Φ h → Φ h'
  quiet : ∀ h t, h.now.Quiet t → Φ h → Φ (h.snoc [] t)

def Ok (Φ : History → Prop) (m : SeatLoop) (h : History) : Prop := Mirror m h ∧ Φ h

def anyHist : History → Prop := fun _ => True

def exitedWith (code : Option Int) : History → Prop := fun h =>
  code = some sessionBoundaryExitCode → JustExited h.past

theorem settled_anyHist : Settled anyHist := ⟨fun _ _ _ _ => trivial, fun _ _ _ _ => trivial⟩

theorem settled_exitedWith (code : Option Int) : Settled (exitedWith code) where
  worker := by
    rintro h h' ⟨⟨out, he, hout⟩, -⟩ hx hc
    rw [he]
    exact (hx hc).append hout
  quiet := fun h t _ hx hc => by simpa using hx hc

theorem settled_confirmed : Settled (fun h => h.now.confirmed) where
  worker := fun _ _ hr hc => hr.2.2 hc
  quiet := fun h t hq hc => by
    unfold World.confirmed at hc ⊢
    rw [Hist.snoc_now, hq.1.2]
    exact hc

abbrev LoopKeeps {α : Type} (born : Prop) (Φ : History → Prop) (v : Verb α) : Prop :=
  Keeps handler (loopPact born) (Ok Φ) v

abbrev LoopSpec {μ χ α : Type} (born : Prop) (P : μ → History → Prop) (p : Routine Ans μ χ α)
    (Q : Except χ α → μ → History → Prop) : Prop :=
  Spec handler (loopPact born) (fun _ _ => True) P p Q

variable {born : Prop} {Φ : History → Prop} {m : SeatLoop} {h h' : History}

theorem Mirror.of_not_fenced (hf : ¬ h.now.fenced) : Mirror m h := fun hw => absurd hw hf

theorem Mirror.not_fenced (hm : Mirror m h) (hs : m.transferStatus = none) : ¬ h.now.fenced := by
  intro hf
  obtain ⟨p, hp⟩ := hm hf
  cases p <;> simp [SeatLoop.transferStatus, hp, serviceStatusOf] at hs

theorem Mirror.stable (hr : WorkerStep h h') (hm : Mirror m h) : Mirror m h' := fun hf => hm <| by
  have ho := hr.2.1
  unfold World.fenced at hf ⊢
  rwa [← ho]

theorem Mirror.quiet {t out} (hm : Mirror m h) (hq : h.now.Quiet t) : Mirror m (h.snoc out t) := fun hf => hm <| by
  have ho := hq.1.1
  unfold World.fenced at hf ⊢
  rwa [← ho]

theorem Ok.stable (hΦ : Settled Φ) (hr : WorkerStep h h') (hm : Ok Φ m h) : Ok Φ m h' :=
  ⟨hm.1.stable hr, hΦ.worker h h' hr hm.2⟩

/-! ## Single questions -/

theorem keeps_quiet (hΦ : Settled Φ) {e} (he : e.quiet = true) : LoopKeeps born Φ (Verb.ask e) :=
  keeps_ask (fun _ _ _ hr hm => hm.stable hΦ hr) fun m h x r t out hm hi hs => by
    obtain ⟨rfl, hq⟩ := handler_quiet he hs
    exact ⟨.quiet hq _, hi.quiet hq (Or.inl rfl) (by simp), hm.1.quiet hq, hΦ.quiet h t hq hm.2⟩

theorem keeps_news {e} (he : ∀ w x r t out, handler e w x = some (r, t, out) →
      t = w ∧ (out = [] ∨ ∃ v, out = [v]) ∧ ∀ v ∈ out, v.isProcess = true ∧ v.isStart = false) :
    LoopKeeps born anyHist (Verb.ask e) :=
  keeps_ask (fun _ _ _ hr hm => hm.stable settled_anyHist hr) fun m h x r t out hm hi hs => by
    obtain ⟨rfl, hone, hout⟩ := he _ _ _ _ _ hs
    have hq : h.now.Quiet h.now := ⟨.refl _, rfl⟩
    exact ⟨.quiet hq _, hi.quiet hq hone hout, hm.1.quiet hq, trivial⟩

theorem handler_stopChild {pid w t x r out} (h : handler (.stopChild pid) w x = some (r, t, out)) :
    t = w ∧ (out = [] ∨ ∃ v, out = [v]) ∧ ∀ v ∈ out, v.isProcess = true ∧ v.isStart = false := by
  simp only [handler] at h
  cases hx : x.stop with
  | ok | error => rw [hx] at h; cases h; simp [Event.isProcess, Event.isStart]

theorem handler_observe {pid w t x r out} (h : handler (.observe pid) w x = some (r, t, out)) :
    t = w ∧ (out = [] ∨ ∃ v, out = [v]) ∧ (∀ v ∈ out, v.isProcess = true ∧ v.isStart = false) ∧
      ∀ code, r = .exited code → out = [.childExited pid code] := by
  simp only [handler] at h
  cases hx : x.observation with
  | exited code =>
    rw [hx] at h; cases h
    refine ⟨rfl, Or.inr ⟨_, rfl⟩, by simp [Event.isProcess, Event.isStart], fun c hc => ?_⟩
    cases hc; rfl
  | waitFailed =>
    rw [hx] at h; cases h
    exact ⟨rfl, Or.inr ⟨_, rfl⟩, by simp [Event.isProcess, Event.isStart], fun c hc => by cases hc⟩
  | driven | drivenError | drivenClosed =>
    rw [hx] at h; cases h
    exact ⟨rfl, Or.inl rfl, by simp, fun c hc => by cases hc⟩

/-! ## Memory and errors -/

theorem keeps_mem {g} (hg : ∀ m, (g m).transferPhase = m.transferPhase) : LoopKeeps born Φ (modify g : Verb PUnit) :=
  keeps_modify fun m h hm => ⟨fun hf => by rw [hg]; exact hm.1 hf, hm.2⟩

theorem spec_tryAsk {χ α : Type} {B P : SeatLoop → History → Prop} {v : Verb (Except χ α)}
    {Q : Except SeatVerbError α → SeatLoop → History → Prop}
    (hv : Spec handler (loopPact born) B P v (fun r => Q (r >>= (·.mapError fun _ => .internal)))) :
    Spec handler (loopPact born) B P (Verb.tryAsk v) Q := by
  refine Spec.bind (R := fun r => Q (r.mapError fun _ => .internal))
    (hv.mono (fun _ _ h => h) fun r m h hm => ?_) fun r => ?_
  · cases r <;> exact hm
  · cases r with
    | ok a => exact Spec.pure fun _ _ h => h
    | error e => exact Spec.throw fun _ _ h => h

theorem calm_ok (hΦ : Settled Φ) : Calm handler (loopPact born) (Ok Φ) where
  quiet := fun _ he => keeps_quiet hΦ he
  mem := fun _ hg m _ hm => ⟨fun hf => by rw [(hg m).1]; exact hm.1 hf, hm.2⟩

/-! ## The child process -/

theorem keeps_stopSlot (slot : ProcessSlot) : LoopKeeps born anyHist (Verb.stopSlot slot) := by
  have hstop : ∀ pid, LoopKeeps born anyHist (Verb.ask (.stopChild pid)) := fun pid =>
    keeps_news fun _ _ _ _ _ hs => handler_stopChild hs
  have hunproven : LoopKeeps born anyHist (do
      Verb.setSlot .exitUnproven
      throw SeatVerbError.internal : Verb Unit) :=
    keeps_bind (keeps_mem fun _ => rfl) fun _ => keeps_throw
  cases slot with
  | parked pid | dkgAcknowledged pid | configured pid =>
    refine keeps_bind (hstop pid) fun r => ?_
    cases r with
    | ok u => exact keeps_pure
    | error e => exact hunproven
  | exitUnproven => exact hunproven
  | empty => exact keeps_pure

theorem keeps_stopChild : LoopKeeps born anyHist Verb.stopChild :=
  keeps_bind keeps_get fun m => keeps_bind (keeps_mem fun _ => rfl) fun _ =>
    keeps_bind (keeps_stopSlot m.child) fun _ => keeps_mem fun _ => rfl

theorem stops_ok : Stops handler (loopPact born) (Ok anyHist) :=
  { calm_ok settled_anyHist with
    clock := fun _ _ _ _ _ hs => by cases hs; exact ⟨rfl, rfl⟩
    guar := LoopStep.refl
    stable := fun _ _ _ hr hm => hm.stable settled_anyHist hr
    stopChild := keeps_stopChild.returns }

theorem keeps_stopFresh (pid : Nat) : LoopKeeps born anyHist (Verb.stopFresh pid) :=
  keeps_bind (keeps_news fun _ _ _ _ _ hs => handler_stopChild hs) fun r => by
    cases r with
    | ok u => exact keeps_pure
    | error e => exact keeps_mem fun _ => rfl

theorem keeps_checkImported (pid : Nat) (invite : Option InviteCode) (state : ChildState) :
    LoopKeeps born anyHist (Verb.checkImported pid invite state) := by
  cases invite with
  | none => exact keeps_pure
  | some expected =>
    unfold Verb.checkImported
    dsimp only
    split
    · exact keeps_pure
    · exact keeps_bind (keeps_stopFresh pid) fun _ => keeps_throw

/-! ## Starting a child -/

def Unfenced (m : SeatLoop) (h : History) : Prop := Ok anyHist m h ∧ ¬ h.now.fenced

theorem Unfenced.stable (hr : WorkerStep h h') (hm : Unfenced m h) : Unfenced m h' := by
  refine ⟨hm.1.stable settled_anyHist hr, ?_⟩
  have ho := hr.2.1
  have hn := hm.2
  unfold World.fenced at hn ⊢
  rwa [ho]

theorem handler_startChild {w t x r out} (h : handler .startChild w x = some (r, t, out)) :
    w.Quiet t ∧ (out = [] ∨ ∃ e, out = [e]) ∧ ∀ e ∈ out, ∃ pid, e = .childStarted pid := by
  simp only [handler] at h
  cases hx : x.spawn <;> rw [hx] at h <;> cases h
  · exact ⟨⟨.refl _, rfl⟩, Or.inr ⟨_, rfl⟩, by simp⟩
  · exact ⟨⟨.refl _, rfl⟩, Or.inl rfl, by simp⟩
  · exact ⟨⟨.refl _, rfl⟩, Or.inr ⟨_, rfl⟩, by simp⟩

theorem Inv.started {out t} (hi : Inv born h) (hn : ¬ h.now.fenced) (hq : h.now.Quiet t)
    (hone : out = [] ∨ ∃ e, out = [e]) (hout : ∀ e ∈ out, ∃ pid, e = .childStarted pid) :
    Inv born (h.snoc out t) := by
  have hfence : ¬ t.fenced := by unfold World.fenced at hn ⊢; rwa [hq.1.1]
  have hconf : ¬ h.now.confirmed := fun hc => hn (hi.confirmed hc).1
  have hconf' : ¬ t.confirmed := by
    unfold World.confirmed at hconf ⊢
    rwa [hq.1.2]
  refine hi.step ⟨hone, fun hf => absurd hf hn, fun hm => ?_, fun hf => absurd hf hfence,
    fun _ _ _ => hn, fun m hm => ?_, fun hc => absurd hc hconf, fun hc => absurd hc hconf'⟩
  · obtain ⟨pid, hpid⟩ := hout _ hm
    cases hpid
  · obtain ⟨pid, hpid⟩ := hout _ hm
    cases hpid

theorem spec_startChild :
    LoopSpec born Unfenced (Verb.ask .startChild) (fun _ => Ok anyHist) :=
  Spec.ask (fun _ _ _ hr hm => hm.stable hr) (fun _ _ _ => trivial) fun m h x r t out hm hi hs => by
    obtain ⟨hq, hone, hout⟩ := handler_startChild hs
    exact ⟨.quiet hq _, hi.started hm.2 hq hone hout, trivial, hm.1.1.quiet hq, trivial⟩

theorem spec_spawnChildInner (c : Config) (invite : Option InviteCode) :
    LoopSpec born Unfenced (Verb.spawnChildInner c invite) (fun _ => Ok anyHist) := by
  refine Spec.get_bind fun m => Spec.mono (P := Unfenced) ?_ (fun m' h hm => hm.1 ▸ hm.2) (fun _ _ _ h => h)
  refine Spec.bind (R := fun _ => Unfenced) ?_ fun _ => ?_
  · unfold Verb.rejectIf
    split
    · exact Spec.throw fun _ _ hm => hm.1
    · exact Spec.pure fun _ _ hm => hm
  refine Spec.chain (spec_tryAsk (spec_startChild.mono (fun _ _ h => h) fun r m h hm => ?_)) fun pid => ?_
  · match r with
    | .ok (.ok pid) => exact hm
    | .ok (.error e) => exact hm
    | .error e => exact hm
  refine (keeps_quiet settled_anyHist rfl).then fun r => ?_
  cases r with
  | error e => exact (keeps_stopFresh pid).then fun _ => returns_throw
  | ok state =>
    exact (keeps_checkImported pid invite state).then fun _ =>
      Keeps.then (keeps_mem fun _ => rfl) fun _ => stops_ok.takeUp c state

theorem spawns_ok : Spawns handler (loopPact born) (Ok anyHist) := by
  refine { stops_ok with spawnChild := fun c => ?_ }
  refine keeps_rejectDecommissioned.then fun _ => ?_
  refine Spec.bind (R := fun _ => Unfenced) ?_ fun _ => spec_spawnChildInner c none
  refine Spec.get_bind fun m => ?_
  split
  · exact Spec.throw fun m' h hm => hm.1 ▸ hm.2
  rename_i hs
  exact Spec.pure fun m' h hm => by
    obtain ⟨rfl, hm⟩ := hm
    exact ⟨hm, hm.1.not_fenced hs⟩

end Manifold.Guardian.Seat
