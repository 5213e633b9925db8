import Mathlib.Data.List.Forall2
import Manifold.Liquidity.Lemmas.CallsFollow

/-!
# The crowd of tasks
-/

namespace Manifold.Liquidity

open Lib

structure Crowd where
  world : World := {}
  members : List (Caller × Stage) := []
  next : Nat := 0

namespace Crowd

variable (c : Crowd)

def move (caller : Caller) (l : Stage) : List (Caller × Stage) :=
  c.members.map (fun m => if m.1 = caller then (caller, l) else m)

def without (caller : Caller) : List (Caller × Stage) := c.members.filter (fun m => m.1 ≠ caller)

end Crowd

abbrev CrowdGuard := Crowd → Ask → Outside → Prop

inductive Tide : World → World → Prop where
  | debit (w : World) (s : Send) (h : s ∈ w.wallet.sends) (hb : s.amount ≤ w.wallet.balance) :
      Tide w
        { w with
          wallet :=
            { balance := w.wallet.balance - s.amount
              sends := w.wallet.sends.erase s
              debits := w.wallet.debits ++ [(⟨s.operationId, s.amount, w.db.tick⟩ : Debit)] } }
  | forget (w : World) (s : Send) : Tide w (w.removeSend s)
  | deposit (w : World) (amount : Sats) :
      Tide w { w with wallet := { w.wallet with balance := w.wallet.balance + amount } }
  | setSetup (w : World) (setup : StoredSetup) : Tide w { w with db := { w.db with setup := setup } }

inductive CrowdStep (G : CrowdGuard) : Crowd → List Note → Crowd → Prop where
  | join (c : Crowd) (worker : Option FundingKind)
      (h : ∀ kind, worker = some kind → ∀ m ∈ c.members, m.1.worker ≠ some kind) :
      CrowdStep G c []
        { c with members := c.members ++ [(⟨c.next, worker⟩, { worker := worker })], next := c.next + 1 }
  | ask (c : Crowd) (caller : Caller) (l : Stage) (e : Ask) (x : Outside) (r : Ans e) (w : World)
      (out : List Event) (hm : (caller, l) ∈ c.members) (ha : l.allows e) (hr : answers e r) (hg : G c e x)
      (hs : handler e c.world x = some (r, w, out)) :
      CrowdStep G c (out.map (fun o => (caller, o)))
        { c with world := w, members := c.move caller (l.after e r) }
  | leave (c : Crowd) (caller : Caller) (l : Stage) (hm : (caller, l) ∈ c.members) :
      CrowdStep G c []
        { c with world := Daemon.unload c.world caller.worker, members := c.without caller }
  | crash (c : Crowd) :
      CrowdStep G c []
        { c with
          world := { c.world with counter := 1, loadedGateway := [], loadedStability := [] }
          members := [] }
  | tide (c : Crowd) (w : World) (h : Tide c.world w) : CrowdStep G c [] { c with world := w }

inductive CrowdReaches (G : CrowdGuard) : List Note → Crowd → Prop where
  | init : CrowdReaches G [] {}
  | step {es out : List Note} {c c' : Crowd} (h : CrowdReaches G es c) (hs : CrowdStep G c out c') :
      CrowdReaches G (es ++ out) c'

variable {G : CrowdGuard}

theorem CrowdReaches.induct {I : List Note → Crowd → Prop} (h0 : I [] {})
    (hstep : ∀ es c out c', CrowdReaches G es c → I es c → CrowdStep G c out c' → I (es ++ out) c')
    {es : List Note} {c : Crowd} (h : CrowdReaches G es c) : I es c := by
  induction h with
  | init => exact h0
  | step h hs ih => exact hstep _ _ _ _ h ih hs

/-! ## Who is in the crowd -/

structure Crowd.WellFormed (c : Crowd) : Prop where
  keyed : Table.Keyed (·.1) c.members
  bound : ∀ m ∈ c.members, m.1.number < c.next
  worker : ∀ m ∈ c.members, m.2.worker = m.1.worker
  serial : ∀ m ∈ c.members, ∀ m' ∈ c.members, ∀ kind, m.1.worker = some kind → m'.1.worker = some kind → m = m'

theorem Stage.after_worker (l : Stage) (e : Ask) (r : Ans e) : (l.after e r).worker = l.worker := by
  cases e <;> try rfl
  case markItemRunning => simp only [after]; split <;> rfl
  case updateItemStep => simp only [after]; split <;> rfl
  case compareAndSetItemStep => simp only [after]; split <;> rfl
  case setItemFailure => simp only [after, endTurn]; split <;> rfl

theorem Crowd.mem_move {c : Crowd} {caller l} {m : Caller × Stage} :
    m ∈ c.move caller l → m = (caller, l) ∧ (∃ l', (caller, l') ∈ c.members) ∨ m ∈ c.members ∧ m.1 ≠ caller := by
  intro h
  obtain ⟨m₀, hm₀, rfl⟩ := List.mem_map.mp h
  by_cases he : m₀.1 = caller
  · simp only [he, if_true]
    exact .inl ⟨trivial, m₀.2, by rw [← he]; exact hm₀⟩
  · simp only [he, if_false]
    exact .inr ⟨hm₀, he⟩

theorem Crowd.wellFormed_step {c c' out} (h : c.WellFormed) (hs : CrowdStep G c out c') : c'.WellFormed := by
  cases hs with
  | join worker hw =>
    have hnew : ∀ m ∈ c.members, m.1 ≠ ⟨c.next, worker⟩ := fun m hm he => by
      have := h.bound m hm
      rw [he] at this
      exact Nat.lt_irrefl _ this
    refine ⟨h.keyed.append hnew, ?_, ?_, ?_⟩
    · intro m hm
      rcases Lib.mem_snoc.mp hm with hm | rfl
      · exact Nat.lt_succ_of_lt (h.bound m hm)
      · exact Nat.lt_succ_self _
    · intro m hm
      rcases List.mem_append.mp hm with hm | hm
      · exact h.worker m hm
      · rw [List.mem_singleton.mp hm]
    intro m hm m' hm' kind hk hk'
    rcases List.mem_append.mp hm with hm | hm <;> rcases List.mem_append.mp hm' with hm' | hm'
    · exact h.serial m hm m' hm' kind hk hk'
    · rw [List.mem_singleton.mp hm'] at hk'
      exact absurd hk (hw kind hk' m hm)
    · rw [List.mem_singleton.mp hm] at hk
      exact absurd hk' (hw kind hk m' hm')
    · rw [List.mem_singleton.mp hm, List.mem_singleton.mp hm']
  | ask caller l e x r w out hm ha hr hg hh =>
    have hkeys : (c.move caller (l.after e r)).map (·.1) = c.members.map (·.1) := by
      unfold Crowd.move
      rw [List.map_map]
      refine List.map_congr_left fun m _ => ?_
      by_cases he : m.1 = caller <;> simp [he]
    -- a member after the step stands for the member before it
    have hback : ∀ m ∈ c.move caller (l.after e r), ∃ m₀ ∈ c.members, m₀.1 = m.1 ∧ m₀.2.worker = m.2.worker := by
      intro m hmm
      rcases Crowd.mem_move hmm with ⟨rfl, -⟩ | ⟨hmm, -⟩
      · exact ⟨(caller, l), hm, rfl, (Stage.after_worker l e r).symm⟩
      · exact ⟨m, hmm, rfl, rfl⟩
    have hkeyed : Table.Keyed (·.1) (c.move caller (l.after e r)) := by
      rw [Table.Keyed, hkeys]; exact h.keyed
    refine ⟨hkeyed, ?_, ?_, ?_⟩
    · intro m hmm
      obtain ⟨m₀, hm₀, he, -⟩ := hback m hmm
      rw [← he]; exact h.bound m₀ hm₀
    · intro m hmm
      obtain ⟨m₀, hm₀, he, hw⟩ := hback m hmm
      rw [← he, ← hw]; exact h.worker m₀ hm₀
    intro m hmm m' hmm' kind hk hk'
    obtain ⟨m₀, hm₀, he, -⟩ := hback m hmm
    obtain ⟨m₁, hm₁, he', -⟩ := hback m' hmm'
    have := h.serial m₀ hm₀ m₁ hm₁ kind (by rw [he]; exact hk) (by rw [he']; exact hk')
    exact hkeyed.eq hmm hmm' (by rw [← he, ← he', this])
  | leave caller l hm =>
    have hsub : ∀ m ∈ c.without caller, m ∈ c.members := fun m hm => List.mem_of_mem_filter hm
    exact ⟨h.keyed.filter, fun m hm => h.bound m (hsub m hm), fun m hm => h.worker m (hsub m hm),
      fun m hm m' hm' => h.serial m (hsub m hm) m' (hsub m' hm')⟩
  | crash => exact ⟨List.nodup_nil, by simp, by simp, by simp⟩
  | tide w hw => exact ⟨h.keyed, h.bound, h.worker, h.serial⟩

theorem CrowdReaches.wellFormed {es c} (h : CrowdReaches G es c) : c.WellFormed :=
  h.induct (I := fun _ c => c.WellFormed) ⟨List.nodup_nil, by simp, by simp, by simp⟩
    fun _ _ _ _ _ hi hs => Crowd.wellFormed_step hi hs

/-! ## The daemon is a crowd -/

def Stands (t : Thread) (m : Caller × Stage) : Prop :=
  t.caller = m.1 ∧ t.task.Follows protocol m.2 fun l _ => protocol.ends l

structure Sim (s : Daemon) (c : Crowd) : Prop where
  world : c.world = s.world
  next : c.next = s.next
  threads : List.Forall₂ Stands s.threads c.members

def GuardSim (guard : Guard) (G : CrowdGuard) : Prop :=
  ∀ s c e x, Sim s c → guard s e x = true → G c e x

theorem forall₂_mem {α β : Type} {R : α → β → Prop} {as bs} (h : List.Forall₂ R as bs) {a} (ha : a ∈ as) : ∃ b ∈ bs, R a b := by
  induction h with
  | nil => cases ha
  | @cons a₀ b₀ as bs hr hrest ih =>
    rcases List.mem_cons.mp ha with rfl | ha
    · exact ⟨b₀, List.mem_cons_self, hr⟩
    · obtain ⟨b, hb, hab⟩ := ih ha
      exact ⟨b, List.mem_cons_of_mem _ hb, hab⟩

theorem Sim.member {s c} (h : Sim s c) {t} (ht : t ∈ s.threads) :
    ∃ l, (t.caller, l) ∈ c.members ∧ t.task.Follows protocol l fun l _ => protocol.ends l := by
  obtain ⟨m, hm, hst⟩ := forall₂_mem h.threads ht
  exact ⟨m.2, by rw [hst.1]; exact hm, hst.2⟩

theorem Sim.remove {s c} (h : Sim s c) (caller : Caller) :
    Sim (s.remove caller)
      { c with world := Daemon.unload c.world caller.worker, members := c.without caller } where
  world := by rw [h.world]; rfl
  next := h.next
  threads := List.rel_filter (fun t m hst => by simp [hst.1]) h.threads

theorem Crowd.filter_move (c : Crowd) (caller : Caller) (l : Stage) :
    (c.move caller l).filter (fun m => m.1 ≠ caller) = c.without caller := by
  unfold move without
  induction c.members with
  | nil => rfl
  | cons m ms ih =>
    rw [List.map_cons, List.filter_cons, List.filter_cons, ih]
    by_cases he : m.1 = caller <;> simp [he]

theorem Crowd.WellFormed.move_self {c : Crowd} (h : c.WellFormed) {caller l} (hl : (caller, l) ∈ c.members) :
    c.move caller l = c.members := by
  conv_rhs => rw [← List.map_id c.members]
  refine List.map_congr_left fun m hm => ?_
  by_cases he : m.1 = caller
  · simp only [he, if_true, id]
    exact (h.keyed.eq hm hl he).symm
  · simp only [he, if_false, id]

theorem Sim.advance {s : Daemon} {c : Crowd} {es w caller l}
    (hr : CrowdReaches G es { c with world := w, members := c.move caller l })
    (hl : (caller, l) ∈ c.move caller l) (hnext : c.next = s.next)
    (h : List.Forall₂ (fun t m => t.caller = m.1 ∧ (t.caller ≠ caller → Stands t m)) s.threads c.members)
    {task : Task Ans Unit (Except ServiceError Unit)} (hf : task.Follows protocol l fun l _ => protocol.ends l) :
    ∃ c', CrowdReaches G es c' ∧ Sim (({ s with world := w } : Daemon).advance caller task) c' := by
  cases task with
  | done m a =>
    have hleave := hr.step (CrowdStep.leave _ caller l hl)
    rw [List.append_nil] at hleave
    refine ⟨_, hleave, rfl, hnext, ?_⟩
    show List.Forall₂ Stands (s.threads.filter _) ((c.move caller l).filter _)
    rw [c.filter_move]
    have hrest := List.rel_filter (p := fun t => t.caller ≠ caller) (q := fun m => m.1 ≠ caller)
      (fun t m hst => by simp [hst.1]) h
    have hne : ∀ t ∈ s.threads.filter (fun t => t.caller ≠ caller), t.caller ≠ caller := by simp
    exact ((List.forall₂_and_left _ _).mpr ⟨hne, hrest⟩).imp fun t m hst => hst.2.2 hst.1
  | await m e k =>
    refine ⟨_, hr, rfl, hnext, ?_⟩
    refine List.rel_map (fun t m hst => ?_) h
    by_cases he : t.caller = caller
    · have hm : m.1 = caller := hst.1 ▸ he
      simp only [he, hm, if_true]
      exact ⟨rfl, hf⟩
    · have hm : m.1 ≠ caller := hst.1 ▸ he
      simp only [he, hm, if_false]
      exact hst.2 he

def Answering (G : CrowdGuard) : Prop :=
  ∀ es c e x r w out, CrowdReaches G es c → handler e c.world x = some (r, w, out) → answers e r

theorem sim_resume {guard} (hG : GuardSim guard G) (hA : Answering G) {s s' c es out} (hr : CrowdReaches G es c)
    (h : Sim s c) {t} (ht : t ∈ s.threads) {x} (hs : resumeThread s guard t x = some (s', out)) :
    ∃ c', CrowdReaches G (es ++ out) c' ∧ Sim s' c' := by
  obtain ⟨l, hl, hf⟩ := h.member ht
  obtain ⟨caller, task⟩ := t
  cases task with
  | done m a => cases hs
  | await m e k =>
    simp only [resumeThread] at hs
    split at hs
    · rename_i hguard
      split at hs
      · cases hs
      rename_i r w out' hh
      cases hs
      have hh' : handler e c.world x = some (r, w, out') := by rw [h.world]; exact hh
      have hans := hA es c e x r w out' hr hh'
      have hstep := hr.step (CrowdStep.ask c caller l e x r w out' hl hf.1 hans (hG s c e x h hguard) hh')
      exact Sim.advance hstep (List.mem_map.mpr ⟨_, hl, by simp⟩) h.next
        (h.threads.imp fun _ _ hst => ⟨hst.1, fun _ => hst⟩) (hf.2 r hans)
    · cases hs

theorem sim_start {s : Daemon} {c es} (env : Env) (hr : CrowdReaches G es c) (h : Sim s c) {call : Call}
    (hrun : call.worker.any s.running = false) :
    ∃ c', CrowdReaches G es c' ∧ Sim (s.start env call) c' := by
  have hjoin := hr.step (CrowdStep.join c call.worker fun kind hk m hm hw => by
    -- a member of this kind is a running pass
    obtain ⟨t, ht, hst⟩ := forall₂_mem h.threads.flip hm
    rw [hk] at hrun
    have hno := List.any_eq_false.mp hrun t ht
    simp [hst.1, hw] at hno)
  rw [List.append_nil] at hjoin
  set c₁ : Crowd :=
    { c with members := c.members ++ [(⟨c.next, call.worker⟩, { worker := call.worker })], next := c.next + 1 }
  have hl : ((⟨c.next, call.worker⟩, { worker := call.worker }) : Caller × Stage) ∈ c₁.members :=
    List.mem_append_right _ List.mem_cons_self
  have hmove := hjoin.wellFormed.move_self hl
  have hsame : ({ c₁ with world := s.world, members := c₁.move ⟨c.next, call.worker⟩ { worker := call.worker } } :
      Crowd) = c₁ := by
    rw [hmove, ← h.world]
  have hcaller : (⟨c.next, call.worker⟩ : Caller) = ⟨s.next, call.worker⟩ := by rw [h.next]
  obtain ⟨c', hr', hsim⟩ := Sim.advance (c := c₁) (w := s.world)
    (s := { s with threads := s.threads ++ [⟨⟨s.next, call.worker⟩, call.job env ()⟩], next := s.next + 1 })
    (by rw [hsame]; exact hjoin) (by rw [hmove]; exact hl) (congrArg (· + 1) h.next)
    (List.rel_append (h.threads.imp fun _ _ hst => ⟨hst.1, fun _ => hst⟩)
      (.cons ⟨hcaller.symm, fun hne => absurd hcaller.symm hne⟩ .nil)) (follows_job env call)
  refine ⟨c', hr', ?_⟩
  rw [hcaller] at hsim
  exact hsim

theorem sim_step {env guard} (hG : GuardSim guard G) (hA : Answering G) {s s' c es out}
    (hr : CrowdReaches G es c) (h : Sim s c) {a} (hs : step env guard s a = some (s', out)) :
    ∃ c', CrowdReaches G (es ++ out) c' ∧ Sim s' c' := by
  have htide : ∀ w, Tide c.world w → ∀ s₁ : Daemon, s₁.world = w → s₁.next = s.next →
      s₁.threads = s.threads → ∃ c', CrowdReaches G (es ++ []) c' ∧ Sim s₁ c' := fun w hw s₁ h₁ h₂ h₃ =>
    ⟨_, hr.step (CrowdStep.tide c w hw), h₁.symm, h.next.trans h₂.symm, by rw [h₃]; exact h.threads⟩
  cases a with
  | begin call =>
    simp only [step] at hs
    split at hs
    · cases hs
    rename_i hrun
    cases hs
    rw [List.append_nil]
    exact sim_start env hr h (by simpa using hrun)
  | resume number x =>
    obtain ⟨t, ht, hs⟩ := Option.bind_eq_some_iff.mp hs
    exact sim_resume hG hA hr h (List.mem_of_find?_eq_some ht) hs
  | drop number =>
    obtain ⟨t, ht, hs⟩ := Option.bind_eq_some_iff.mp hs
    split at hs
    · cases hs
    · cases hs
      obtain ⟨l, hl, -⟩ := h.member (List.mem_of_find?_eq_some ht)
      exact ⟨_, hr.step (CrowdStep.leave c t.caller l hl), h.remove t.caller⟩
  | crash =>
    cases hs
    exact ⟨_, hr.step (CrowdStep.crash c), by rw [h.world], h.next, .nil⟩
  | debit send =>
    simp only [step] at hs
    split at hs
    · rename_i hb
      cases hs
      rw [← h.world] at hb
      exact htide _ (Tide.debit c.world send hb.1 hb.2) _ (by rw [h.world]; rfl) rfl rfl
    · cases hs
  | forget send =>
    simp only [step] at hs
    split at hs
    · cases hs
      exact htide _ (Tide.forget c.world send) _ (by rw [h.world]) rfl rfl
    · cases hs
  | deposit amount =>
    cases hs
    exact htide _ (Tide.deposit c.world amount) _ (by rw [h.world]) rfl rfl
  | setSetup setup =>
    cases hs
    exact htide _ (Tide.setSetup c.world setup) _ (by rw [h.world]) rfl rfl

/-- Every state of the daemon stands for a state of the crowd with the same notes and the same world. -/
theorem reaches_crowd {env guard} (hG : GuardSim guard G) (hA : Answering G) {es s}
    (h : (machine env guard).Reaches es s) :
    ∃ c, CrowdReaches G es c ∧ Sim s c := by
  refine Machine.Reaches.induct (I := fun es s => ∃ c, CrowdReaches G es c ∧ Sim s c) ?_ ?_ h
  · rintro s ⟨hw, ht, hn⟩
    exact ⟨{}, .init, hw.symm, hn.symm, by rw [ht]; exact .nil⟩
  · rintro es s a t out - ⟨c, hr, hsim⟩ hs
    exact sim_step hG hA hr hsim hs

end Manifold.Liquidity
