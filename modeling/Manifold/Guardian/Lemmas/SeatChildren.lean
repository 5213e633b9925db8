import Manifold.Lib.Trace
import Manifold.Guardian.Lemmas.SeatTasks

/-!
# The process slot accounts for every child
-/

namespace Manifold.Guardian.Seat

open Lib Lib.Routine

/-! ## Accounts -/

theorem unproved_append {es out} : unproved (es ++ out) = out.foldl account (unproved es) :=
  List.foldl_append

def Accounts (pids : List Nat) (es : List Event) : Prop :=
  unproved es = pids ∧ ∀ e ∈ es, e.isFailure = false

theorem account_of_not_process {pids e} (he : e.isProcess = false) : account pids e = pids := by
  cases e <;> first | rfl | cases he

theorem isFailure_of_not_process {e : Event} (he : e.isProcess = false) : e.isFailure = false := by
  cases e <;> first | rfl | cases he

theorem Accounts.snoc {pids es e} (h : Accounts pids es) (he : e.isFailure = false) :
    Accounts (account pids e) (es ++ [e]) := by
  refine ⟨?_, fun f hf => ?_⟩
  · rw [unproved_append, h.1]
    rfl
  · rcases List.mem_append.mp hf with hf | hf
    · exact h.2 f hf
    · rwa [List.mem_singleton.mp hf]

theorem Accounts.append {pids es out} (h : Accounts pids es) (hout : ∀ e ∈ out, e.isProcess = false) :
    Accounts pids (es ++ out) := by
  induction out generalizing es with
  | nil => rwa [List.append_nil]
  | cons e out ih =>
    have he := hout e List.mem_cons_self
    have hs := h.snoc (isFailure_of_not_process he)
    rw [account_of_not_process he] at hs
    have ht := ih hs fun f hf => hout f (List.mem_cons_of_mem _ hf)
    rwa [List.append_assoc] at ht

/-- A process starts only when every earlier one is proved exited and no wait or stop has failed. -/
def Exclusive (pre : List Event) (e : Event) : Prop := e.isStart = true → Accounts [] pre

def Fit (m : SeatLoop) (h : History) : Prop :=
  m.child ≠ .exitUnproven → Accounts m.child.pid?.toList h.past

/-! ## The pact -/

def Aside (h h' : History) : Prop := ∃ out, h'.past = h.past ++ out ∧ ∀ e ∈ out, e.isProcess = false

theorem Aside.refl (h : History) : Aside h h := ⟨[], by simp, by simp⟩

theorem Aside.trans {h₁ h₂ h₃} (a : Aside h₁ h₂) (b : Aside h₂ h₃) : Aside h₁ h₃ := by
  obtain ⟨o₁, e₁, n₁⟩ := a
  obtain ⟨o₂, e₂, n₂⟩ := b
  refine ⟨o₁ ++ o₂, by rw [e₂, e₁, List.append_assoc], fun e he => ?_⟩
  rcases List.mem_append.mp he with he | he
  · exact n₁ e he
  · exact n₂ e he

def childPact : Pact Event World where
  inv h := Trace.Each Exclusive h.past
  rely := Aside
  guar _ _ := True
  rely_refl := .refl
  rely_trans := .trans

def provingHandler : Handler Ans World Outside Event := fun e w x =>
  if x.provesExit e then handler e w x else none

theorem provingHandler_eq {e w x r} (h : provingHandler e w x = some r) :
    x.provesExit e = true ∧ handler e w x = some r := by
  unfold provingHandler at h
  split at h
  · exact ⟨‹_›, h⟩
  · cases h

variable {m : SeatLoop} {h h' : History}

theorem Accounts.aside {pids} (ha : Accounts pids h.past) (hr : Aside h h') : Accounts pids h'.past := by
  obtain ⟨out, he, hout⟩ := hr
  rw [he]
  exact ha.append hout

theorem Fit.aside (hm : Fit m h) (hr : Aside h h') : Fit m h' := fun hne => (hm hne).aside hr

theorem exclusive_append {es out} (hi : Trace.Each Exclusive es) (hout : ∀ e ∈ out, e.isStart = false) :
    Trace.Each Exclusive (es ++ out) := by
  refine hi.append fun pre e post he hst => ?_
  rw [hout e (by simp [he])] at hst
  cases hst

/-! ## Questions -/

def Ask.isProcess : Ask → Bool
  | .startChild | .stopChild _ | .observe _ => true
  | _ => false

theorem Ask.isProcess_of_quiet {e : Ask} (he : e.quiet = true) : e.isProcess = false := by
  cases e <;> first | rfl | cases he

theorem World.writeEmit_events {α : Type} {w t : World} {x : Outside}
    {f : SeatRows → SeatRows × Except DbError α} {emit : α → List Event} {r : Except DbError α}
    {out : List Event} (h : w.writeEmit x f emit = some (r, t, out)) {e : Event} (he : e ∈ out) :
    ∃ a, e ∈ emit a := by
  rcases World.writeEmit_eq h with ⟨-, rfl, -⟩ | ⟨-, -, rfl⟩
  · cases he
  · split at he
    · exact ⟨_, he⟩
    · cases he

theorem handler_aside {e} (he : e.isProcess = false) {w t x r out} (h : handler e w x = some (r, t, out)) :
    ∀ f ∈ out, f.isProcess = false := by
  intro f hf
  cases hq : e.quiet with
  | true =>
    obtain ⟨rfl, -⟩ := handler_quiet hq h
    cases hf
  | false =>
    cases e with
    | startChild | stopChild | observe => cases he
    | retireForTransfer =>
      simp only [handler] at h
      obtain ⟨a, ha⟩ := World.writeEmit_events h hf
      cases a with
      | true => rw [List.mem_singleton.mp ha]; rfl
      | false => cases ha
    | recordTransferRemoval =>
      obtain ⟨rfl, -⟩ := World.write_eq h
      cases hf
    | recordBackupPublication =>
      simp only [handler] at h
      obtain ⟨a, ha⟩ := World.writeEmit_events h hf
      rw [List.mem_singleton.mp ha]
      rfl
    | publish publication v =>
      simp only [handler] at h
      cases hx : x.publish with
      | confirmed => rw [hx] at h; cases h; rw [List.mem_singleton.mp hf]; rfl
      | landedUnconfirmed => rw [hx] at h; cases h; cases hf
      | lost => rw [hx] at h; cases h; cases hf
    | replyMaterial material => cases h; rw [List.mem_singleton.mp hf]; rfl
    | clock | elapsed | nowSecs | formedFederationInvite | decommissionedAtMs | outgoingTransfer
    | incomingTransfer | backupPublication | admitTransfer | acceptTransfer | dkgInputs | recordDkgInputs
    | recordFormed | decommissionSeat | seatRecoveryFacts | dataDirExists | seatDirExists
    | readGuardianArchive | removeDataDir | removeStaging | writeStaging | renameStaging | syncSeatDir
    | drivenClient | pendingEvents | nextEvent | runDkg | probe | shutdownAfterCurrentSession => cases hq

theorem not_isStart_of_not_process {e : Event} (he : e.isProcess = false) : e.isStart = false := by
  cases e <;> first | rfl | cases he

theorem keeps_aside {μ χ : Type} {P} (hP : ∀ m h h', Aside h h' → P m h → P m h') {e} (he : e.isProcess = false) :
    Keeps provingHandler childPact P (Routine.ask e : Routine Ans μ χ (Ans e)) := by
  refine keeps_ask hP fun m h x r t out hm hi hs => ?_
  have hout := handler_aside he (provingHandler_eq hs).2
  exact ⟨trivial, exclusive_append hi fun f hf => not_isStart_of_not_process (hout f hf), hP m h _ ⟨out, rfl, hout⟩ hm⟩

theorem fit_ask {e} (he : e.isProcess = false) : Keeps provingHandler childPact Fit (Verb.ask e) :=
  keeps_aside (fun _ _ _ hr hm => hm.aside hr) he

theorem Fit.harmless {g} (hg : Harmless g) (hm : Fit m h) : Fit (g m) h := by
  obtain ⟨-, hpid, hun⟩ := hg m
  intro hne
  rw [hpid]
  exact hm fun hc => hne (hun.mpr hc)

theorem calm_fit : Calm provingHandler childPact Fit where
  quiet := fun _ he => fit_ask (Ask.isProcess_of_quiet he)
  mem := fun _ hg _ _ hm => hm.harmless hg

abbrev ChildSpec {μ χ α : Type} (P : μ → History → Prop) (p : Routine Ans μ χ α)
    (Q : Except χ α → μ → History → Prop) : Prop :=
  Spec provingHandler childPact (fun _ _ => True) P p Q

abbrev Fits {α : Type} (v : Verb α) : Prop := Returns provingHandler childPact Fit v

theorem fits_mem {g} (hg : ∀ m, (g m).child = m.child) : Fits (modify g : Verb PUnit) := by
  refine Spec.modify fun m h hm hne => ?_
  rw [hg] at hne ⊢
  exact hm hne

/-! ## Stopping a child -/

def Emptied (pids : List Nat) (m : SeatLoop) (h : History) : Prop :=
  m.child = .empty ∧ Accounts pids h.past

theorem Emptied.aside {pids} (hm : Emptied pids m h) (hr : Aside h h') : Emptied pids m h' :=
  ⟨hm.1, hm.2.aside hr⟩

theorem Emptied.fit (hm : Emptied [] m h) : Fit m h := fun _ => by
  rw [hm.1]
  exact hm.2

theorem spec_stop (pid : Nat) :
    ChildSpec (Emptied [pid]) (Verb.ask (.stopChild pid))
      (fun r m h => match r with
        | .ok stopped => stopped = .ok () → Emptied [] m h
        | .error _ => False) := by
  refine Spec.ask (fun _ _ _ hr hm => hm.aside hr) (fun _ _ _ => trivial) fun m h x r t out hm hi hs => ?_
  have hh := (provingHandler_eq hs).2
  simp only [handler] at hh
  cases hx : x.stop with
  | ok u =>
    rw [hx] at hh
    cases hh
    refine ⟨trivial, exclusive_append hi (by simp [Event.isStart]), trivial, fun _ => ⟨hm.1, ?_⟩⟩
    have ha := hm.2.snoc (e := .childStopped pid) rfl
    simpa [account] using ha
  | error u =>
    rw [hx] at hh
    cases hh
    exact ⟨trivial, exclusive_append hi (by simp [Event.isStart]), trivial, fun hr => by cases hr⟩

theorem spec_stopOr {α : Type} {pid : Nat} {f : Except Unit Unit → Verb α}
    (hok : ChildSpec Fit (f (.ok ())) (fun _ => Fit))
    (herr : ChildSpec (fun _ _ => True) (f (.error ())) (fun _ => Fit)) :
    ChildSpec (Emptied [pid]) (Verb.ask (.stopChild pid) >>= f)
      (fun _ => Fit) := by
  refine Spec.bind (R := fun r m h => r = .ok () → Emptied [] m h) ((spec_stop pid).mono (fun _ _ h => h)
    fun r m h hm => ?_) fun r => ?_
  · cases r with
    | ok r => exact hm
    | error e => exact hm.elim
  · cases r with
    | ok u => exact hok.mono (fun _ _ hm => (hm rfl).fit) (fun _ _ _ hm => hm)
    | error u => exact herr.mono (fun _ _ _ => trivial) (fun _ _ _ hm => hm)

theorem spec_setUnproven {P} :
    ChildSpec P (Verb.setSlot .exitUnproven) (fun _ => Fit) :=
  Spec.modify fun _ _ _ hne => absurd rfl hne

theorem spec_unproven {P} :
    ChildSpec P (do
      Verb.setSlot .exitUnproven
      throw SeatVerbError.internal : Verb Unit) (fun _ => Fit) :=
  Spec.chain spec_setUnproven fun _ => returns_throw

theorem spec_stopFresh (pid : Nat) :
    ChildSpec (Emptied [pid]) (Verb.stopFresh pid) (fun _ => Fit) :=
  spec_stopOr (Spec.pure fun _ _ hm => hm) spec_setUnproven

def Taken (slot : ProcessSlot) (m : SeatLoop) (h : History) : Prop :=
  slot ≠ .exitUnproven → Emptied slot.pid?.toList m h

theorem spec_stopSlot (slot : ProcessSlot) :
    ChildSpec (Taken slot) (Verb.stopSlot slot) (fun _ => Fit) := by
  cases slot with
  | parked pid | dkgAcknowledged pid | configured pid =>
    refine Spec.mono (P := Emptied [pid]) ?_ (fun _ _ hm => hm (by simp)) (fun _ _ _ hm => hm)
    exact spec_stopOr (Spec.pure fun _ _ hm => hm) spec_unproven
  | exitUnproven => exact spec_unproven
  | empty => exact Spec.pure fun _ _ hm => (hm (by simp)).fit

theorem fits_stopChild : Fits Verb.stopChild := by
  refine Spec.get_bind fun m => ?_
  refine Spec.modify_bind (S := Taken m.child) (fun m' h hm hne => ?_) ?_
  · obtain ⟨rfl, hm⟩ := hm
    exact ⟨rfl, hm hne⟩
  · exact Spec.chain (spec_stopSlot m.child) fun _ => fits_mem fun _ => rfl

theorem stops_fit : Stops provingHandler childPact Fit :=
  { calm_fit with
    clock := fun _ _ _ _ _ hs => by cases (provingHandler_eq hs).2; exact ⟨rfl, rfl⟩
    guar := fun _ => trivial
    stable := fun _ _ _ hr hm => hm.aside hr
    stopChild := fits_stopChild }

/-! ## Starting a child -/

theorem spec_start :
    ChildSpec (Emptied []) (Verb.tryAsk (Verb.ask .startChild))
      (fun r m h => match r with
        | .ok pid => Emptied [pid] m h
        | .error _ => Fit m h) := by
  refine Spec.bind (R := fun r m h => match r with
    | .ok pid => Emptied [pid] m h
    | .error _ => Fit m h) (Spec.ask (fun _ _ _ hr hm => hm.aside hr) (fun _ _ _ => trivial)
      fun m h x r t out hm hi hs => ?_) fun r => ?_
  · obtain ⟨hx, hh⟩ := provingHandler_eq hs
    simp only [handler] at hh
    simp only [Outside.provesExit, bne_iff_ne, ne_eq] at hx
    cases hspawn : x.spawn with
    | started =>
      rw [hspawn] at hh
      cases hh
      refine ⟨trivial, hi.append fun pre e post he hst => ?_, trivial, hm.1, ?_⟩
      · obtain ⟨rfl, -⟩ := (List.append_eq_singleton_iff.mp he.symm).resolve_right (by simp)
        rw [List.append_nil]
        exact hm.2
      · exact hm.2.snoc (e := .childStarted h.now.nextPid) rfl
    | failed =>
      rw [hspawn] at hh
      cases hh
      exact ⟨trivial, exclusive_append hi (by simp), trivial, (hm.aside ⟨[], rfl, by simp⟩).fit⟩
    | failedAfterFork => exact absurd hspawn hx
  · cases r with
    | ok pid => exact Spec.pure fun _ _ hm => hm
    | error u => exact Spec.throw fun _ _ hm => hm

theorem spec_drivenClient (pid : Nat) :
    ChildSpec (Emptied [pid]) (Verb.ask (.drivenClient pid))
      (fun r m h => match r with
        | .ok _ => Emptied [pid] m h
        | .error _ => False) := by
  refine Spec.ask (fun _ _ _ hr hm => hm.aside hr) (fun _ _ _ => trivial) fun m h x r t out hm hi hs => ?_
  cases (provingHandler_eq hs).2
  exact ⟨trivial, exclusive_append hi (by simp), trivial, hm.aside ⟨[], rfl, by simp⟩⟩

theorem spec_checkImported (pid : Nat) (invite : Option InviteCode) (state : ChildState) :
    ChildSpec (Emptied [pid]) (Verb.checkImported pid invite state)
      (fun r m h => match r with
        | .ok _ => Emptied [pid] m h
        | .error _ => Fit m h) := by
  cases invite with
  | none => exact Spec.pure fun _ _ hm => hm
  | some expected =>
    unfold Verb.checkImported
    dsimp only
    split
    · exact Spec.pure fun _ _ hm => hm
    · refine Spec.bind (R := fun _ => Fit) ((spec_stopFresh pid).mono (fun _ _ h => h)
        fun r _ _ hm => ?_) fun _ => Spec.throw fun _ _ hm => hm
      cases r <;> exact hm

theorem fits_spawnChildInner (c : Config) (invite : Option InviteCode) : Fits (Verb.spawnChildInner c invite) := by
  refine Spec.get_bind fun m => ?_
  refine Spec.bind (R := fun _ => Emptied []) ?_ fun _ => ?_
  · -- only an empty slot passes
    unfold Verb.rejectIf
    split
    · exact Spec.throw fun m' h hm => hm.1 ▸ hm.2
    rename_i hc
    have hempty : m.child = .empty := by simpa using hc
    refine Spec.pure fun m' h hm => ?_
    obtain ⟨rfl, hm⟩ := hm
    have ha := hm (by rw [hempty]; simp)
    rw [hempty] at ha
    exact ⟨hempty, ha⟩
  refine Spec.bind (R := fun pid => Emptied [pid]) (spec_start.mono (fun _ _ h => h) fun r _ _ hm => ?_)
    fun pid => ?_
  · cases r <;> exact hm
  refine Spec.bind (R := fun _ => Emptied [pid]) ((spec_drivenClient pid).mono (fun _ _ h => h)
    fun r m h hm => ?_) fun r => ?_
  · cases r with
    | ok state => exact hm
    | error e => exact hm.elim
  cases r with
  | error u => exact Spec.chain (spec_stopFresh pid) fun _ => returns_throw
  | ok state =>
    refine Spec.bind (R := fun _ => Emptied [pid]) ((spec_checkImported pid invite state).mono
      (fun _ _ h => h) fun r _ _ hm => ?_) fun _ => ?_
    · cases r <;> exact hm
    · refine Spec.modify_bind (S := Fit) (fun m h hm _ => ?_) (stops_fit.takeUp c state)
      cases state <;> exact hm.2

theorem spawns_fit : Spawns provingHandler childPact Fit :=
  { stops_fit with
    spawnChild := fun c => keeps_rejectDecommissioned.then fun _ => keeps_rejectTransferWork.then fun _ =>
      fits_spawnChildInner c none }

/-! ## Exits -/

theorem fits_commitSessionBoundaryExit (code : Option Int) : Fits (Verb.commitSessionBoundaryExit code) := by
  unfold Verb.commitSessionBoundaryExit
  split
  · refine (fit_ask rfl).then fun r => ?_
    match r with
    | .ok true => exact Spec.chain (fits_mem fun _ => rfl) fun _ => returns_pure
    | .ok false => exact returns_pure
    | .error e => exact returns_pure
  · exact returns_pure

theorem spec_handleChildExit_proved (exit : Option (Option Int)) :
    ChildSpec (fun _ h => Accounts [] h.past)
      (Verb.handleChildExit exit) (fun _ => Fit) := by
  refine Spec.get_bind fun m => ?_
  refine Spec.modify_bind (S := Fit) (fun _ _ hm _ => hm.2) ?_
  refine (calm_fit.drainSlot m.child).then fun _ => ?_
  refine Spec.chain (fits_commitSessionBoundaryExit _) fun committed => ?_
  split
  · exact returns_pure
  · exact Spec.chain (fits_mem fun _ => rfl) fun _ => calm_fit.scheduleRespawn.returns

def Seen : ProcessObservation → SeatLoop → History → Prop
  | .exited _, _, h => Accounts [] h.past
  | .waitFailed, _, _ => False
  | _, m, h => Fit m h

theorem spec_observe_seen (pid : Nat) :
    ChildSpec (fun m h => m.child.pid? = some pid ∧ Fit m h)
      (Verb.ask (.observe pid)) (fun r m h => match r with
        | .ok o => Seen o m h
        | .error _ => False) := by
  refine Spec.ask (fun _ _ _ hr hm => ⟨hm.1, hm.2.aside hr⟩) (fun _ _ _ => trivial)
    fun m h x r t out hm hi hs => ?_
  obtain ⟨hx, hh⟩ := provingHandler_eq hs
  simp only [handler] at hh
  simp only [Outside.provesExit, bne_iff_ne, ne_eq] at hx
  have hfit : Fit m (h.snoc [] h.now) := hm.2.aside ⟨[], rfl, by simp⟩
  have hquiet : Trace.Each Exclusive (h.snoc [] h.now).past := exclusive_append hi (by simp)
  cases hobs : x.observation with
  | exited code =>
    rw [hobs] at hh
    cases hh
    refine ⟨trivial, exclusive_append hi (by simp [Event.isStart]), trivial, ?_⟩
    have ha := hm.2 (fun hc => by have h1 := hm.1; rw [hc] at h1; cases h1)
    rw [hm.1] at ha
    have hs := ha.snoc (e := .childExited pid code) rfl
    simpa [account, Seen] using hs
  | waitFailed => exact absurd hobs hx
  | driven | drivenError | drivenClosed =>
    rw [hobs] at hh
    cases hh
    exact ⟨trivial, hquiet, trivial, hfit⟩

theorem spec_handleProcessObservation_seen (o : ProcessObservation) :
    ChildSpec (Seen o) (Verb.handleProcessObservation o)
      (fun _ => Fit) := by
  cases o with
  | exited code => exact spec_handleChildExit_proved (some code)
  | waitFailed => exact fun _ _ hm => hm.elim
  | drivenError | drivenClosed | driven => exact stops_fit.handleProcessObservation (by simp) (by simp)

/-! ## Commands and turns -/

theorem fits_transferOut (c : Config) (signed : SignedGrant) : Fits (Verb.transferOut c signed) := by
  refine Keeps.then (calm_fit.checkSourceGrant c signed) fun _ => ?_
  refine Keeps.then (keeps_tryAsk (fit_ask rfl)) fun outgoing => ?_
  match outgoing with
  | none =>
    exact Keeps.then (calm_fit.readMaterial c) fun _ =>
      calm_fit.requestShutdown.then fun _ => returns_throw
  | some .removed => exact returns_throw
  | some .stopped =>
    exact Keeps.returns (keeps_bind (keeps_tryAsk (fit_ask rfl)) fun _ => keeps_bind keeps_rejectIf fun _ =>
      keeps_bind (calm_fit.readMaterial c) fun _ =>
        keeps_bind (calm_fit.checkSourceGrant c signed) fun _ => keeps_pure)

theorem fits_removeTransferred : Fits Verb.removeTransferred := by
  have hdelete : Fits Verb.deleteMaterial := by
    refine Keeps.then (fit_ask rfl) fun r => ?_
    cases r with
    | error e => exact returns_throw
    | ok u =>
      refine Keeps.then (fit_ask rfl) fun present => ?_
      refine calm_fit.syncSeatDirIf.then fun _ => ?_
      refine Keeps.then (keeps_tryAsk (fit_ask rfl)) fun changed => ?_
      exact keeps_rejectIf.then fun _ => fits_mem fun _ => rfl
  refine keeps_rejectDecommissioned.then fun _ => ?_
  refine keeps_get.then fun m => ?_
  split
  · exact returns_pure
  · exact Spec.chain hdelete fun _ => returns_pure
  · exact returns_throw

theorem fits_admitTransfer (c : Config) (signed : SignedGrant) (serviceKey : ServicePubkey)
    (callback : Option (BitVec 256)) : Fits (Verb.admitTransfer c signed serviceKey callback) := by
  refine keeps_checkImportAllowed.then fun _ => ?_
  refine Keeps.then (fit_ask rfl) fun now => ?_
  split
  · exact returns_throw
  refine keeps_get.then fun m => ?_
  refine keeps_rejectIf.then fun _ => ?_
  refine Keeps.then (fit_ask rfl) fun now => ?_
  refine Keeps.then (keeps_tryAsk (fit_ask rfl)) fun r => ?_
  cases r with
  | none => exact returns_throw
  | some record =>
    exact Spec.chain (fits_mem fun _ => rfl) fun _ => Spec.chain stops_fit.stopChildIf fun _ => returns_pure

theorem fits_spawnImported (c : Config) (invite : InviteCode) : Fits (Verb.spawnImported c invite) := by
  refine Spec.chain (fits_mem fun _ => rfl) fun _ => Spec.chain (fits_mem fun _ => rfl) fun _ =>
    Spec.chain (Spec.attempt (fits_spawnChildInner c (some invite))) fun r => ?_
  cases r with
  | ok u => exact returns_pure
  | error e => exact calm_fit.scheduleRespawn.returns

theorem fits_installTransfer (c : Config) (binding : TransferMove) (guardian : ValidatedGuardian) :
    Fits (Verb.installTransfer c binding guardian) := by
  refine calm_fit.currentImport.then fun record => ?_
  refine keeps_rejectIf.then fun _ => ?_
  refine keeps_rejectIf.then fun _ => ?_
  refine keeps_rejectIf.then fun _ => ?_
  refine Spec.chain fits_stopChild fun _ => ?_
  refine Spec.chain (fits_mem fun _ => rfl) fun _ => ?_
  refine Keeps.then (calm_fit.installImportedMaterial c _) fun _ => ?_
  refine Keeps.then (keeps_tryAsk (fit_ask rfl)) fun accepted => ?_
  refine keeps_rejectIf.then fun _ => ?_
  exact Spec.chain (fits_spawnImported c guardian.invite) fun _ => calm_fit.scheduleWatchdog.returns

theorem fits_serveTransferOut (c : Config) (signed : SignedGrant) : Fits (Verb.serve c (.transferOut signed)) := by
  refine Spec.chain (Spec.attempt (fits_transferOut c signed)) fun r => ?_
  cases r with
  | ok material => exact (fit_ask rfl).then fun _ => returns_pure
  | error e => exact returns_pure

theorem serves_fit : Serves provingHandler childPact Fit := by
  refine { spawns_fit with
    admitTransfer := fits_admitTransfer
    installTransfer := fits_installTransfer
    transferOut := fits_serveTransferOut
    removeTransferred := fits_removeTransferred
    observation := fun c => Spec.get_bind fun m => ?_ }
  cases hpid : m.child.pid? with
  | none => exact Spec.pure fun m' h hm => hm.1 ▸ hm.2
  | some pid =>
    refine Spec.bind (R := Seen) ((spec_observe_seen pid).mono (fun m' h hm => ?_) fun r m h hm => ?_) fun o => ?_
    · obtain ⟨rfl, hm⟩ := hm
      exact ⟨hpid, hm⟩
    · cases r with
      | ok o => exact hm
      | error e => exact hm.elim
    · exact Spec.chain (spec_handleProcessObservation_seen o) fun _ => returns_pure

end Manifold.Guardian.Seat
