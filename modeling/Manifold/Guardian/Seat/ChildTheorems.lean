import Manifold.Guardian.Lemmas.SeatChildren
import Manifold.Guardian.Seat.Theorems

/-!
# At most one child of a seat
-/

namespace Manifold.Guardian.Seat

open Lib Lib.Routine

/-! ## The questions of the other tasks -/

theorem asks_tryAsk {χ α : Type} {p : Ask → Prop} {v : Work (Except χ α)} (hv : Asks p v) : Asks p (Work.tryAsk v) := by
  refine asks_bind hv fun r => ?_
  cases r with
  | ok a => exact asks_pure
  | error e => exact asks_throw

abbrev Apart (e : Ask) : Prop := e.isProcess = false

theorem asks_seatPublicationPlan (codec : Codec) (facts : SeatFacts) (digest : Option String) :
    Asks Apart (Work.seatPublicationPlan codec facts digest) := by
  refine asks_bind (asks_tryAsk (asks_ask rfl)) fun recovery => ?_
  split
  · exact asks_bind (asks_tryAsk (asks_ask rfl)) fun _ => asks_ofExcept
  · exact asks_bind asks_pure fun _ => asks_ofExcept

theorem asks_publishConfirmed (plan : SeatPublication) (v : Nat) : Asks Apart (Work.publishConfirmed plan v) := by
  refine asks_bind (asks_timeout rfl (asks_ask rfl)) fun r => ?_
  match r with
  | none => exact asks_throw
  | some (.error e) => exact asks_throw
  | some (.ok (.error u)) => exact asks_throw
  | some (.ok (.ok u)) => exact asks_pure

theorem asks_reconcileSeat (codec : Codec) (facts : SeatFacts) (v : Nat) :
    Asks Apart (Work.reconcileSeat codec facts v) := by
  refine asks_bind (asks_tryAsk (asks_ask rfl)) fun recorded => ?_
  refine asks_bind (asks_seatPublicationPlan _ _ _) fun plan => ?_
  split
  · exact asks_pure
  refine asks_bind (asks_publishConfirmed _ _) fun _ => ?_
  refine asks_bind (asks_seatPublicationPlan _ _ _) fun current => ?_
  refine asks_bind ?_ fun _ => asks_tryAsk (asks_ask rfl)
  unfold Work.rejectIf
  split
  · exact asks_throw
  · exact asks_pure

theorem spec_openSeat_empty (facts : SeatFacts) (keys : SeatKeys) :
    ChildSpec (fun _ h => Accounts [] h.past) (openSeat facts keys)
      (fun r _ h => ∀ m, r = .ok m → Fit m h) := by
  have hread : ∀ {e : Ask}, Apart e → Keeps provingHandler childPact (fun (_ : Unit) h => Accounts [] h.past)
      (Work.ask e) := fun he => keeps_aside (fun _ _ _ hr hm => hm.aside hr) he
  have hdone : ∀ (e : String) (_ : Unit) (h : History), Accounts [] h.past →
      ∀ m', (Except.error e : Except String SeatLoop) = .ok m' → Fit m' h := fun _ _ _ _ _ hm => by cases hm
  refine Spec.after (keeps_workTryAsk (hread rfl)) hdone fun decommissioned => ?_
  refine Spec.after (keeps_workTryAsk (hread rfl)) hdone fun formed => ?_
  refine Spec.after (keeps_workTryAsk (hread rfl)) hdone fun outgoing => ?_
  cases outgoing with
  | some o =>
    refine Spec.pure fun _ h ha m hm => ?_
    cases hm
    exact fun _ => ha
  | none =>
    refine Spec.after (keeps_workTryAsk (hread rfl)) hdone fun incoming => ?_
    refine Spec.pure fun _ h ha m hm => ?_
    cases hm
    exact fun _ => ha

/-! ## A life -/

theorem scans_apart : Scans childPact (fun _ t => t.Asks Apart) where
  stable ht _ := ht
  begins _ _ _ _ := asks_reconcileSeat _ _ _ ()
  resumes {es w w' x t u out} hi ht hs := by
    cases t with
    | done m a => cases hs
    | await m e k =>
      simp only [resume, Option.map_eq_some_iff] at hs
      obtain ⟨⟨r, w₁, o⟩, hh, he⟩ := hs
      cases he
      have hout := handler_aside ht.1 hh
      exact ⟨⟨o, rfl, hout⟩, exclusive_append hi fun f hf => not_isStart_of_not_process (hout f hf), ht.2 r⟩

structure LifeInv (es : List Event) (s : State) : Prop where
  alive : s.daemon ≠ none
  tasks : Tasks provingHandler childPact Fit (fun _ t => t.Asks Apart) es s

variable {es : List Event} {s : State}

theorem step_alive {a s' out} (h : step s a = some (s', out)) (ha : a.isCrash = false) : s'.daemon ≠ none := by
  cases a with
  | crash => cases ha
  | boot config keys =>
    simp only [Seat.step] at h
    split at h <;> cases h
    simp
  | _ =>
    simp only [Seat.step, State.onDaemon, Option.bind_eq_some_iff, Option.map_eq_some_iff] at h
    obtain ⟨_, -, _, -, he⟩ := h
    cases he
    simp

theorem LifeInv.step {a s' out} (hs : LifeInv es s) (h : (lifetime provesExits).step s a = some (s', out)) :
    LifeInv (es ++ out) s' := by
  simp only [lifetime] at h
  split at h
  case isFalse => cases h
  rename_i hg
  simp only [Bool.and_eq_true, Bool.not_eq_true'] at hg
  refine ⟨step_alive h hg.1, hs.tasks.step serves_fit scans_apart (fun _ _ _ hd => absurd hd hs.alive)
    (fun x d e ha hd he => ?_) h⟩
  have hx := hg.2
  simp only [ha, provesExits, hd, Option.bind_some, he, Option.all_some] at hx
  exact if_pos hx

theorem LifeInv.of_init (h : (lifetime provesExits).init s) : LifeInv [] s := by
  obtain ⟨s₀, config, keys, hb⟩ := h
  simp only [Seat.step] at hb
  split at hb
  · cases hb
  cases hb
  refine ⟨by simp, .nil, fun d hd => ?_, fun d t hd ht => ?_⟩
  · cases hd
    exact spec_openSeat_empty _ _ () _ ⟨rfl, by simp⟩
  · cases hd
    cases ht

/-- If no wait fails and no start fails with the process created, a process is started only when every process
started earlier in the daemon's life is proved exited. -/
theorem child_starts_exclusive (h : (lifetime provesExits).Reaches es s) {pre post : List Event} {pid : Nat}
    (hes : es = pre ++ .childStarted pid :: post) :
    unproved pre = [] ∧ ∀ e ∈ pre, e.isFailure = false := by
  have hi : LifeInv es s := Machine.Reaches.induct (I := LifeInv) (fun _ hi => .of_init hi)
    (fun _ _ _ _ _ _ hs hst => hs.step hst) h
  exact hi.tasks.inv pre _ post hes rfl

/-! ## A child that is replaced -/

def takenUp : State where
  world := movingSeat.world
  daemon := some ⟨movingConfig, .opening (openSeat movingSeat.world.rows.facts ⟨1, 2, "auth", false⟩ ()), none⟩

theorem takenUp_init (guard : State → Act → Bool) : (lifetime guard).init takenUp :=
  ⟨movingSeat, movingConfig, ⟨1, 2, "auth", false⟩, rfl⟩

/-- The child starts, the wait for it ends with `observation`, and the respawn timer starts another. -/
def replacingRun (observation : ProcessObservation) : List Act :=
  let loop (n : Nat) := List.replicate n (Act.loop { movingOutside with observation := observation })
  loop 4 ++ [.next .respawn] ++ loop 5 ++ [.next .observation] ++ loop 2 ++ [.next .respawn] ++ loop 1

theorem child_starts_exclusive_replaced :
    ∃ s, (lifetime provesExits).Reaches ([.childStarted 0, .childExited 0 (some 0)] ++ [.childStarted 1]) s ∧
      unproved [.childStarted 0, .childExited 0 (some 0)] = [] := by
  have hrun : ((lifetime provesExits).exec takenUp (replacingRun (.exited (some 0)))).map (·.2) =
      some ([.childStarted 0, .childExited 0 (some 0)] ++ [.childStarted 1]) := by decide +kernel
  obtain ⟨⟨s, es⟩, hexec, rfl⟩ := Option.map_eq_some_iff.mp hrun
  have hreach := Machine.reaches_of_exec (M := lifetime provesExits) (takenUp_init _) hexec
  exact ⟨s, hreach, (child_starts_exclusive hreach rfl).1⟩

/-- The wait for the first child fails, so that its exit is not proved, and a second one is started. -/
theorem second_child_after_failed_wait :
    ∃ s, (lifetime (fun _ _ => true)).Reaches ([.childStarted 0, .waitFailed 0] ++ [.childStarted 1]) s ∧
      unproved [.childStarted 0, .waitFailed 0] = [0] := by
  have hrun : ((lifetime (fun _ _ => true)).exec takenUp (replacingRun .waitFailed)).map (·.2) =
      some ([.childStarted 0, .waitFailed 0] ++ [.childStarted 1]) := by decide +kernel
  obtain ⟨⟨s, es⟩, hexec, rfl⟩ := Option.map_eq_some_iff.mp hrun
  exact ⟨s, Machine.reaches_of_exec (M := lifetime (fun _ _ => true)) (takenUp_init _) hexec, rfl⟩

theorem unproved_length_le (h : Trace.Each Exclusive es) : (unproved es).length ≤ 1 := by
  induction es using List.reverseRecOn with
  | nil => exact Nat.zero_le 1
  | append_singleton es e ih =>
    have hes := ih fun pre n post he => h pre n (post ++ [e]) (by simp [he])
    rw [unproved_append]
    cases e with
    | childStarted pid => simp [(h es _ [] rfl rfl).1, account]
    | childExited | childStopped => exact (List.length_filter_le _ _).trans hes
    | _ => exact hes

/-- If exits are proved, at most one process is not, at every moment of a life. -/
theorem one_child_alive (h : (lifetime provesExits).Reaches es s) : (unproved es).length ≤ 1 :=
  unproved_length_le (Machine.Reaches.induct (I := LifeInv) (fun _ hi => .of_init hi)
    (fun _ _ _ _ _ _ hs hst => hs.step hst) h).tasks.inv

theorem one_child_alive_replaced :
    ((lifetime provesExits).exec takenUp (replacingRun (.exited (some 0)))).map (fun r => unproved r.2) = some [1] ∧
    ∀ r ∈ (lifetime provesExits).exec takenUp (replacingRun (.exited (some 0))), (unproved r.2).length ≤ 1 :=
  ⟨by decide +kernel, fun _ hr => one_child_alive (Machine.reaches_of_exec (takenUp_init _) hr)⟩

end Manifold.Guardian.Seat
