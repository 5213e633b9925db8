import Manifold.Guardian.Payouts

/-!
# Payouts are idempotent per request
-/

namespace Manifold.Guardian.Payouts

open Lib Service

variable {federationOf : InviteCode → FederationId} {s t : Store} {es out : List (Note (Call × Event))}

def Stored (s : Store) (job : PayoutJob) : Prop :=
  ∃ j ∈ s.jobs, j.requestId = job.requestId ∧ j.scope = job.scope ∧ j.destination = job.destination

def startedOf : Note (Call × Event) → Option NativeOperation
  | (_, _, .started o) => some o
  | _ => none

structure Returns (s : Store) (call : Call) (j : PayoutJob) : Prop where
  asked : call = .startJob j.requestId j.scope
  row : j ∈ s.jobs
  operation : j.operation ≠ none

structure StoreOk (es : List (Note (Call × Event))) (s : Store) : Prop where
  keyed : Table.Keyed (·.requestId) s.jobs
  once : Table.Keyed (·.requestId) s.native
  owned : ∀ o ∈ s.native, ∃ j ∈ s.jobs, j.requestId = o.requestId ∧ exclusionKey j.scope = o.wallet ∧
    j.destination = o.destination
  recorded : ∀ j ∈ s.jobs, ∀ op, j.operation = some op → ∃ o ∈ s.native, o.requestId = j.requestId ∧
    o.payout.operationId = op.operationId ∧ o.payout.amountMsat = op.amountMsat
  started : es.filterMap startedOf = s.native
  returned : ∀ n call j, (n, call, .returned j) ∈ es → Returns s call j

def Phase.call : Phase → Call
  | .getting id scope | .choosing id scope | .inserting id scope _ | .rereading id scope _ => .startJob id scope
  | .locking job | .recovering job | .starting job | .responding job _ | .committing job _ true
  | .committed job _ true => .startJob job.requestId job.scope
  | .looking id => .status id
  | .finding job | .committing job _ false | .committed job _ false => .status job.requestId

def PhaseOk (s : Store) : Phase → Prop
  | .locking job | .recovering job | .finding job => Stored s job
  | .starting job => Stored s job ∧ ∀ o ∈ s.native, o.requestId ≠ job.requestId
  | .responding job payout | .committing job payout _ | .committed job payout _ =>
    Stored s job ∧ ∃ o ∈ s.native, o.requestId = job.requestId ∧ o.payout = payout
  | _ => True

def CallOk (s : Store) (c : Call × Phase) : Prop := c.2.call = c.1 ∧ PhaseOk s c.2

structure Grows (s t : Store) : Prop where
  jobs : ∀ j ∈ s.jobs, ∃ j' ∈ t.jobs, j'.requestId = j.requestId ∧ j'.scope = j.scope ∧
    j'.destination = j.destination ∧ (j.operation ≠ none → j' = j)
  native : ∀ o ∈ s.native, o ∈ t.native

theorem Grows.refl (s : Store) : Grows s s := ⟨fun j hj => ⟨j, hj, rfl, rfl, rfl, fun _ => rfl⟩, fun _ => id⟩

theorem Grows.trans {u} (h₁ : Grows s t) (h₂ : Grows t u) : Grows s u := by
  refine ⟨fun j hj => ?_, fun o ho => h₂.native o (h₁.native o ho)⟩
  obtain ⟨j₁, hj₁, hid₁, hsc₁, hd₁, hop₁⟩ := h₁.jobs j hj
  obtain ⟨j₂, hj₂, hid₂, hsc₂, hd₂, hop₂⟩ := h₂.jobs j₁ hj₁
  refine ⟨j₂, hj₂, hid₂.trans hid₁, hsc₂.trans hsc₁, hd₂.trans hd₁, fun hop => ?_⟩
  have heq := hop₁ hop
  rw [hop₂ (heq ▸ hop), heq]

theorem Grows.stored {job} (h : Grows s t) (hs : Stored s job) : Stored t job := by
  obtain ⟨j, hj, hid, hsc, hd⟩ := hs
  obtain ⟨j', hj', hid', hsc', hd', -⟩ := h.jobs j hj
  exact ⟨j', hj', hid'.trans hid, hsc'.trans hsc, hd'.trans hd⟩

theorem Grows.returns {call j} (h : Grows s t) (hr : Returns s call j) : Returns t call j := by
  obtain ⟨j', hj', -, -, -, hsame⟩ := h.jobs j hr.row
  exact ⟨hr.asked, hsame hr.operation ▸ hj', hr.operation⟩

/-! ## The store -/

theorem grows_insert {job} : Grows s (s.insert job) := by
  unfold Store.insert
  split
  · exact .refl s
  · exact ⟨fun j hj => ⟨j, List.mem_append_left _ hj, rfl, rfl, rfl, fun _ => rfl⟩, fun _ => id⟩

theorem native_insert {job} : (s.insert job).native = s.native := by
  unfold Store.insert
  split <;> rfl

theorem StoreOk.insert {job} (h : StoreOk es s) (hop : job.operation = none) : StoreOk es (s.insert job) := by
  refine ⟨?_, ?_, ?_, ?_, ?_, fun n call j hj => grows_insert.returns (h.returned n call j hj)⟩
  · unfold Store.insert
    split
    · exact h.keyed
    · rename_i hnone
      exact h.keyed.append (Table.lookup_eq_none.mp (Option.not_isSome_iff_eq_none.mp hnone))
  · rw [native_insert]
    exact h.once
  · rw [native_insert]
    intro o ho
    obtain ⟨j, hj, hid, hw, hd⟩ := h.owned o ho
    obtain ⟨j', hj', hid', hsc', hd', -⟩ := grows_insert.jobs j hj
    exact ⟨j', hj', hid'.trans hid, by rw [hsc', hw], hd'.trans hd⟩
  · rw [native_insert]
    intro j hj op hjop
    unfold Store.insert at hj
    split at hj
    · exact h.recorded j hj op hjop
    rcases List.mem_append.mp hj with hj | hj
    · exact h.recorded j hj op hjop
    · rw [List.mem_singleton.mp hj, hop] at hjop
      cases hjop
  · rw [native_insert]
    exact h.started

theorem grows_commit {id p now} : Grows s (s.commit id p now) := by
  refine ⟨fun j hj => ?_, fun _ ho => ho⟩
  refine ⟨_, Table.mem_update.mpr ⟨j, hj, rfl⟩, ?_⟩
  split
  · rename_i hp
    simp only [Bool.and_eq_true, Option.isNone_iff_eq_none] at hp
    exact ⟨rfl, rfl, rfl, fun hop => absurd hp.2 hop⟩
  · exact ⟨rfl, rfl, rfl, fun _ => rfl⟩

theorem StoreOk.commit {id p now} (h : StoreOk es s) (hp : ∃ o ∈ s.native, o.requestId = id ∧ o.payout = p) :
    StoreOk es (s.commit id p now) := by
  refine ⟨h.keyed.update fun _ _ => rfl, h.once, ?_, ?_, h.started,
    fun n call j hj => grows_commit.returns (h.returned n call j hj)⟩
  · intro o ho
    obtain ⟨j, hj, hid, hw, hd⟩ := h.owned o ho
    obtain ⟨j', hj', hid', hsc', hd', -⟩ := grows_commit.jobs j hj
    exact ⟨j', hj', hid'.trans hid, by rw [hsc', hw], hd'.trans hd⟩
  intro j' hj' op hop
  obtain ⟨j, hj, rfl⟩ := Table.mem_update.mp hj'
  split at hop
  · rename_i hrow
    rw [if_pos hrow]
    simp only [Bool.and_eq_true, beq_iff_eq] at hrow
    cases hop
    obtain ⟨o, ho, hoid, rfl⟩ := hp
    exact ⟨o, ho, hoid.trans hrow.1.symm, rfl, rfl⟩
  · rename_i hrow
    rw [if_neg hrow]
    exact h.recorded j hj op hop

theorem StoreOk.start {job p n call} (h : StoreOk es s) (hj : Stored s job)
    (hnew : ∀ o ∈ s.native, o.requestId ≠ job.requestId) :
    StoreOk (es ++ [(n, call, .started ⟨exclusionKey job.scope, job.requestId, job.destination, p⟩)])
      { s with native := s.native ++ [⟨exclusionKey job.scope, job.requestId, job.destination, p⟩] } := by
  refine ⟨h.keyed, h.once.append hnew, ?_, ?_, by simp [h.started, startedOf], ?_⟩
  · intro o ho
    rcases Lib.mem_snoc.mp ho with ho | rfl
    · exact h.owned o ho
    · obtain ⟨j, hj, hid, hsc, hd⟩ := hj
      exact ⟨j, hj, hid, by rw [hsc], hd⟩
  · intro j hj op hop
    obtain ⟨o, ho, hrec⟩ := h.recorded j hj op hop
    exact ⟨o, List.mem_append_left _ ho, hrec⟩
  intro m call' j hj
  rcases List.mem_append.mp hj with hj | hj
  · obtain ⟨hask, hrow, hop⟩ := h.returned m call' j hj
    exact ⟨hask, hrow, hop⟩
  · cases List.mem_singleton.mp hj

theorem StoreOk.note (h : StoreOk es s)
    (hout : ∀ n call e, (n, call, e) ∈ out → ∃ j, e = .returned j ∧ Returns s call j) : StoreOk (es ++ out) s := by
  refine ⟨h.keyed, h.once, h.owned, h.recorded, ?_, ?_⟩
  · have hnone : out.filterMap startedOf = [] := by
      refine List.filterMap_eq_nil_iff.mpr fun m hm => ?_
      obtain ⟨n, call, e⟩ := m
      obtain ⟨j, rfl, -⟩ := hout n call e hm
      rfl
    rw [List.filterMap_append, hnone, List.append_nil, h.started]
  intro n call j hj
  rcases List.mem_append.mp hj with hj | hj
  · exact h.returned n call j hj
  · obtain ⟨j', hj', hret⟩ := hout n call _ hj
    cases hj'
    exact hret

theorem payoutForRequest_some {job p} (h : s.payoutForRequest job = some p) :
    ∃ o ∈ s.native, o.requestId = job.requestId ∧ o.payout = p := by
  obtain ⟨o, ho, rfl⟩ := Option.map_eq_some_iff.mp h
  have hp := List.find?_some ho
  simp only [Bool.and_eq_true, decide_eq_true_eq] at hp
  exact ⟨o, List.mem_of_find?_eq_some ho, hp.1.2, rfl⟩

theorem payoutForRequest_none {job} (h : StoreOk es s) (hj : Stored s job) (hn : s.payoutForRequest job = none) :
    ∀ o ∈ s.native, o.requestId ≠ job.requestId := by
  intro o ho hid
  obtain ⟨j, hj, hjid, hsc, hd⟩ := hj
  obtain ⟨j', hj', hid', hw, hd'⟩ := h.owned o ho
  have heq : j' = j := h.keyed.eq hj' hj (hid'.trans (hid.trans hjid.symm))
  have hfind := List.find?_eq_none.mp (Option.map_eq_none_iff.mp hn) o ho
  simp [← hw, ← hd', heq, hsc, hd, hid] at hfind

/-! ## One step of a call -/

structure StepOk (es : List (Note (Call × Event))) (s : Store) (c : Call × Phase) (t : Store) (q : Option Phase)
    (out : List (Note (Call × Event))) : Prop where
  store : StoreOk (es ++ out) t
  phase : ∀ p', q = some p' → CallOk t (c.1, p')
  grows : Grows s t
  fresh : ∀ o ∈ t.native, o ∈ s.native ∨ ∃ job, c.2 = .starting job ∧ o.requestId = job.requestId

theorem StepOk.quiet {c q n} {out : List Event} (h : StoreOk es s) (hq : ∀ p', q = some p' → CallOk s (c.1, p'))
    (hout : ∀ e ∈ out, ∃ j, e = .returned j ∧ Returns s c.1 j) : StepOk es s c s q (out.map fun e => (n, c.1, e)) where
  store := h.note fun m call e he => by
    obtain ⟨e', he', heq⟩ := List.mem_map.mp he
    cases heq
    exact hout e he'
  phase := hq
  grows := .refl s
  fresh _ ho := .inl ho

theorem proceed_ok {c job n q out} {found : Prop} [Decidable found] (h : StoreOk es s) (hmem : job ∈ s.jobs)
    (hc : found → c.1 = .startJob job.requestId job.scope)
    (hr : (if found then proceed federationOf job else (none, [])) = (q, out)) :
    StepOk es s c s q (out.map fun e => (n, c.1, e)) := by
  unfold proceed at hr
  split at hr
  · rename_i hfound
    have hcall := hc hfound
    split at hr
    · split at hr
      · rename_i hop
        cases hr
        refine .quiet h (by simp) fun e he => ?_
        exact ⟨job, List.mem_singleton.mp he, hcall, hmem, Option.isSome_iff_ne_none.mp hop⟩
      cases hr
      refine .quiet h ?_ (by simp)
      rintro p' ⟨⟩
      exact ⟨hcall.symm, job, hmem, rfl, rfl, rfl⟩
    · cases hr
      exact .quiet h (by simp) (by simp)
  · cases hr
    exact .quiet h (by simp) (by simp)

theorem resume_ok {c : Call × Phase} {x q out n} (h : StoreOk es s) (hp : CallOk s c)
    (hr : resume federationOf s c.2 x = some (t, q, out)) : StepOk es s c t q (out.map fun e => (n, c.1, e)) := by
  have quiet : ∀ q', (∀ p', q' = some p' → CallOk s (c.1, p')) →
      StepOk es s c s q' (([] : List Event).map fun e => (n, c.1, e)) := fun q' hq => .quiet h hq (by simp)
  obtain ⟨call, p⟩ := c
  obtain ⟨hcall, hp⟩ := hp
  simp only at hcall hr hp quiet ⊢
  subst hcall
  unfold resume at hr
  split at hr
  · cases hr
    exact quiet none (by simp)
  · split at hr
    · rename_i job hget
      injection hr with hr
      injection hr with hs hr
      subst hs
      obtain ⟨hmem, hid⟩ := Table.lookup_mem hget
      exact proceed_ok h hmem (fun hsc => by simp [Phase.call, hsc, hid]) hr
    · cases hr
      exact quiet _ (by simp [CallOk, PhaseOk, Phase.call])
  · cases hr
    exact quiet _ (by simp [CallOk, PhaseOk, Phase.call])
  · cases hr
    refine ⟨?_, by simp [CallOk, PhaseOk, Phase.call], grows_insert, ?_⟩
    · rw [List.map_nil, List.append_nil]
      exact h.insert rfl
    · intro o ho
      rw [native_insert] at ho
      exact .inl ho
  · split at hr
    · rename_i job hget
      injection hr with hr
      injection hr with hs hr
      subst hs
      obtain ⟨hmem, hid⟩ := Table.lookup_mem hget
      exact proceed_ok h hmem (fun hsc => by simp [Phase.call, hsc.1, hid]) hr
    · cases hr
      exact quiet none (by simp)
  · cases hr
    exact quiet _ (by simpa [CallOk, PhaseOk, Phase.call] using hp)
  · split at hr
    · rename_i payout hfind
      cases hr
      exact quiet _ (by simpa [CallOk, PhaseOk, Phase.call] using ⟨hp, payoutForRequest_some hfind⟩)
    · rename_i hfind
      cases hr
      exact quiet _ (by simpa [CallOk, PhaseOk, Phase.call] using ⟨hp, payoutForRequest_none h hp hfind⟩)
  · split at hr
    · cases hr
    cases hr
    refine ⟨h.start hp.1 hp.2, ?_, ?_, ?_⟩
    · rintro p' ⟨⟩
      exact ⟨rfl, hp.1, _, List.mem_append_right _ List.mem_cons_self, rfl, rfl⟩
    · exact ⟨(Grows.refl s).jobs, fun o ho => List.mem_append_left _ ho⟩
    intro o ho
    rcases List.mem_append.mp ho with ho | ho
    · exact .inl ho
    · exact .inr ⟨_, rfl, by rw [List.mem_singleton.mp ho]⟩
  · cases hr
    exact quiet _ (by simpa [CallOk, PhaseOk, Phase.call] using hp)
  · rename_i job payout locked now
    split at hr
    · cases hr
      refine ⟨?_, ?_, grows_commit, fun o ho => .inl ho⟩
      · rw [List.map_nil, List.append_nil]
        exact h.commit hp.2
      · rintro p' ⟨⟩
        exact ⟨by cases locked <;> rfl, grows_commit.stored hp.1, hp.2⟩
    · cases hr
      exact quiet none (by simp)
  · rename_i job payout locked now
    split at hr
    · rename_i j hget
      split at hr
      · rename_i hop
        cases hr
        refine .quiet h (by simp) fun e he => ?_
        cases locked with
        | false => cases he
        | true =>
          obtain ⟨hmem, hid⟩ := Table.lookup_mem hget
          obtain ⟨⟨j', hj', hid', hsc, -⟩, -⟩ := hp
          have heq : j' = j := h.keyed.eq hj' hmem (hid'.trans hid.symm)
          refine ⟨j, List.mem_singleton.mp he, ?_, hmem, ?_⟩
          · simp [Phase.call, ← hsc, ← hid', heq]
          · rintro hnone
            simp [hnone] at hop
      · cases hr
        exact quiet none (by simp)
    · cases hr
      exact quiet none (by simp)
  · split at hr
    · rename_i job hget
      cases hr
      refine quiet _ fun p' hp' => ?_
      obtain ⟨hmem, rfl⟩ := Table.lookup_mem hget
      split at hp'
      · cases hp'
        exact ⟨rfl, job, hmem, rfl, rfl, rfl⟩
      · cases hp'
    · cases hr
      exact quiet none (by simp)
  · cases hr
    refine quiet _ fun p' hp' => ?_
    obtain ⟨payout, hfind, rfl⟩ := Option.map_eq_some_iff.mp hp'
    exact ⟨rfl, hp, payoutForRequest_some hfind⟩
  · cases hr
  · cases hr

/-! ## Runs -/

theorem CallOk.grow {c} (hc : CallOk s c) (hg : Grows s t)
    (hnew : ∀ job, c.2 = .starting job → ∀ o ∈ t.native, o.requestId = job.requestId → o ∈ s.native) : CallOk t c := by
  obtain ⟨call, p⟩ := c
  refine ⟨hc.1, ?_⟩
  have hp := hc.2
  cases p with
  | locking | recovering | finding => exact hg.stored hp
  | starting job => exact ⟨hg.stored hp.1, fun o ho hid => hp.2 o (hnew job rfl o ho hid) hid⟩
  | responding | committing | committed =>
    obtain ⟨hs, o, ho, heq⟩ := hp
    exact ⟨hg.stored hs, o, hg.native o ho, heq⟩
  | _ => trivial

theorem Stored.scope_eq {job job'} (h : StoreOk es s) (hj : Stored s job) (hj' : Stored s job')
    (hid : job.requestId = job'.requestId) : job.scope = job'.scope := by
  obtain ⟨j, hmem, hjid, hsc, -⟩ := hj
  obtain ⟨j', hmem', hjid', hsc', -⟩ := hj'
  rw [← hsc, ← hsc', h.keyed.eq hmem hmem' (by rw [hjid, hid, hjid'])]

theorem holds_committed {job payout locked} :
    (Phase.committed job payout locked).holds = (Phase.committing job payout locked).holds := by
  cases locked <;> rfl

theorem resume_holds {p x q out} (h : resume federationOf s p x = some (t, some q, out)) :
    ∀ k ∈ q.holds, k ∈ p.holds ∨ p.wants = some k := by
  unfold resume proceed at h
  split at h <;> grind [Phase.holds, Phase.wants, Option.map_eq_some_iff, holds_committed]

theorem worker_resume {s t c x q out}
    (h : (worker federationOf).resume s c x = some (t, q, out)) :
    ∃ q' out', resume federationOf s c.2 x = some (t, q', out') ∧ q = q'.map (c.1, ·) ∧ out = out'.map (c.1, ·) := by
  obtain ⟨⟨t', q', out'⟩, hr, heq⟩ := Option.map_eq_some_iff.mp h
  cases heq
  exact ⟨q', out', hr, rfl, rfl⟩

section

variable {s t : Server Store (Call × Phase)}

theorem exclusive (h : (runs federationOf).Reaches es s) {c d} (hc : c ∈ s.calls) (hd : d ∈ s.calls) {k}
    (hkc : k ∈ c.2.2.holds) (hkd : k ∈ d.2.2.holds) : c.1 = d.1 := by
  refine Reaches.exclusive_key (fun _ _ hg => hg) ?_ ?_ h hc hd hkc hkd
  · intro t call p hp
    cases call <;> cases hp <;> rfl
  intro t p x t' q out hr
  obtain ⟨q', out', hres, hq, -⟩ := worker_resume hr
  obtain ⟨q'', rfl, rfl⟩ := Option.map_eq_some_iff.mp hq.symm
  exact resume_holds hres

abbrev Sound : List (Note (Call × Event)) → Server Store (Call × Phase) → Prop :=
  Inv StoreOk fun _ s _ c => CallOk s c

theorem others_ok (hr : (runs federationOf).Reaches es s) (hi : Sound es s) {number c} (hc : (number, c) ∈ s.calls)
    {t q} (h : StepOk es s.shared c t q out) {d} (hd : d ∈ s.calls) (hne : d.1 ≠ number) : CallOk t d.2 := by
  refine (hi.calls d hd).grow h.grows fun job hjob o ho hid => ?_
  rcases h.fresh o ho with ho | ⟨job', hjob', hid'⟩
  · exact ho
  -- the two calls are about one row, so they would hold the same lock
  have hd' := (hi.calls d hd).2
  have hc' := (hi.calls _ hc).2
  rw [hjob] at hd'
  simp only [hjob'] at hc'
  have hsc := hd'.1.scope_eq hi.shared hc'.1 (hid.symm.trans hid')
  exact absurd (exclusive hr hd hc (k := exclusionKey job.scope) (by simp [hjob, Phase.holds])
    (by simp [hjob', hsc, Phase.holds])) hne

theorem reaches_sound (h : (runs federationOf).Reaches es s) : Sound es s := by
  refine Reaches.calls ?_ ?_ ?_ ?_ h
  · rintro t ⟨hj, hn⟩
    constructor <;> simp [Table.Keyed, hj, hn]
  · intro es s call c _ _ _ hc
    cases call <;> cases hc <;> exact ⟨rfl, trivial⟩
  · intro es s number x c t q out hr hi _ hc hs
    obtain ⟨q', out', hres, rfl, rfl⟩ := worker_resume hs
    have hok := resume_ok (n := some number) hi.shared (hi.calls _ hc) hres
    rw [List.map_map]
    refine ⟨hok.store, fun c' hc' => ?_, fun d hd hne => others_ok hr hi hc hok hd hne⟩
    obtain ⟨p', rfl, rfl⟩ := Option.map_eq_some_iff.mp hc'
    exact hok.phase p' rfl
  intro es s b t out _ hi _ hs
  obtain ⟨⟨hkeyed, honce, howned, hrec, hstarted, hret⟩, hcalls, -, -⟩ := hi
  cases b with
  | setDestination d =>
    cases hs
    rw [List.map_nil, List.append_nil]
    have hg : Grows s.shared { s.shared with destination := d } := ⟨(Grows.refl _).jobs, fun _ => id⟩
    exact ⟨⟨hkeyed, honce, howned, hrec, hstarted, fun n call j hj => hg.returns (hret n call j hj)⟩,
      fun _ c hc => (hcalls c hc).grow hg fun _ _ _ ho _ => ho⟩
  | crash =>
    cases hs
    rw [List.map_nil, List.append_nil]
    exact ⟨⟨hkeyed, honce, howned, hrec, hstarted, hret⟩, fun hc => by cases hc⟩

theorem run_grows {fs} (h : (runs federationOf).Reaches es s) (hr : (runs federationOf).Run s fs t) :
    Grows s.shared t.shared := by
  induction hr with
  | nil => exact .refl _
  | snoc a hrun hs ih =>
    refine ih.trans ?_
    have hi := reaches_sound (h.run hrun)
    cases steps_of_step hs with
    | begin | drop => exact .refl _
    | resume number x c t q out _ hc hres =>
      obtain ⟨q', out', hres, -, -⟩ := worker_resume hres
      exact (resume_ok (n := none) hi.shared (hi.calls _ hc) hres).grows
    | outside b t out _ hb =>
      cases b with
      | setDestination d =>
        cases hb
        exact ⟨(Grows.refl _).jobs, fun _ => id⟩
      | crash =>
        cases hb
        exact .refl _

/-- No request id is started twice, a row keeps its scope, destination and operation, and a `start_job` call that
succeeds returns the row of its own request, with the operation the wallet started for it. -/
theorem payouts_idempotent (h : (runs federationOf).Reaches es s) :
    ((es.filterMap startedOf).map (·.requestId)).Nodup ∧
    (∀ fs t, (runs federationOf).Run s fs t → ∀ id j, s.shared.get id = some j →
      ∃ j', t.shared.get id = some j' ∧ j'.scope = j.scope ∧ j'.destination = j.destination ∧
        (j.operation ≠ none → j'.operation = j.operation)) ∧
    ∀ n call j, (n, call, .returned j) ∈ es →
      call = .startJob j.requestId j.scope ∧ s.shared.get j.requestId = some j ∧
        ∃ op o, j.operation = some op ∧ o ∈ es.filterMap startedOf ∧ o.requestId = j.requestId ∧
          o.destination = j.destination ∧ op.operationId = o.payout.operationId ∧
          op.amountMsat = o.payout.amountMsat := by
  have hok := (reaches_sound h).shared
  refine ⟨hok.started ▸ hok.once, ?_, ?_⟩
  · intro fs t hr id j hget
    obtain ⟨hmem, rfl⟩ := Table.lookup_mem hget
    obtain ⟨j', hj', hid, hsc, hd, hsame⟩ := (run_grows h hr).jobs j hmem
    have hkeyed := (reaches_sound (h.run hr)).shared.keyed
    refine ⟨j', ?_, hsc, hd, fun hop => by rw [hsame hop]⟩
    rw [← hid]
    exact hkeyed.lookup hj'
  intro n call j hj
  obtain ⟨hask, hrow, hop⟩ := hok.returned n call j hj
  obtain ⟨op, hop⟩ := Option.ne_none_iff_exists'.mp hop
  obtain ⟨o, ho, hid, hoid, hamt⟩ := hok.recorded j hrow op hop
  obtain ⟨j', hj', hid', -, hd⟩ := hok.owned o ho
  have heq : j' = j := hok.keyed.eq hj' hrow (hid'.trans hid)
  exact ⟨hask, hok.keyed.lookup hrow, op, o, hop, hok.started ▸ ho, hid, by rw [← hd, heq], hoid.symm, hamt.symm⟩

def lostResponse : List (Turn Call Choice Outside) :=
  let ask : Call := .startJob "request" (.paymentFederation "federation")
  [.outside (.setDestination (some "destination")), .begin ask] ++ List.replicate 6 (.resume 0 (.go 1)) ++
    [.resume 0 (.durable ⟨"operation", 42, none⟩), .resume 0 .fail, .begin ask] ++
    List.replicate 5 (.resume 1 (.go 2))

theorem payouts_idempotent_lostResponse :
    (((runs fun _ => "").exec ⟨{}, [], 0⟩ lostResponse).map (fun r => r.2.map (·.2.2))) =
      some [.started ⟨"payment:federation", "request", "destination", "operation", 42, none⟩,
        .returned ⟨"request", .paymentFederation "federation", "destination", some ⟨"operation", 42, none, 2⟩, 1⟩] ∧
    ∀ r ∈ (runs fun _ => "").exec ⟨{}, [], 0⟩ lostResponse, ((r.2.filterMap startedOf).map (·.requestId)).Nodup :=
  ⟨by decide +kernel, fun _ hr =>
    (payouts_idempotent (Machine.reaches_of_exec (M := runs fun _ => "") ⟨⟨rfl, rfl⟩, rfl, rfl⟩ hr)).1⟩

/-- The row of the request is stored, recovery finds just this operation, and a committed row names no other. -/
def Recoverable (s : Store) (o : NativeOperation) : Prop :=
  ∃ j, s.get o.requestId = some j ∧ s.payoutForRequest j = some o.payout ∧
    ∀ op, j.operation = some op → op.operationId = o.payout.operationId ∧ op.amountMsat = o.payout.amountMsat

/-- Whatever was lost or cut since the wallet started an operation, it is recoverable. -/
theorem started_payouts_recoverable (h : (runs federationOf).Reaches es s) :
    ∀ o ∈ es.filterMap startedOf, Recoverable s.shared o := by
  have hok := (reaches_sound h).shared
  intro o ho
  rw [hok.started] at ho
  obtain ⟨j, hj, hid, hkey, hdest⟩ := hok.owned o ho
  refine ⟨j, hid ▸ hok.keyed.lookup hj, ?_, fun op hop => ?_⟩
  · unfold Store.payoutForRequest
    cases hf : s.shared.native.find? _ with
    | none => exact absurd (List.find?_eq_none.mp hf o ho) (by simp [hid, hkey, hdest])
    | some o' =>
      have hp := List.find?_some hf
      simp only [Bool.and_eq_true, decide_eq_true_eq] at hp
      rw [hok.once.eq (List.mem_of_find?_eq_some hf) ho (hp.1.2.trans hid)]
      rfl
  · obtain ⟨o', ho', hid', hop', hamt⟩ := hok.recorded j hj op hop
    obtain rfl := hok.once.eq ho' ho (hid'.trans hid)
    exact ⟨hop'.symm, hamt.symm⟩

theorem started_payouts_recoverable_lost :
    ((runs fun _ => "").exec ⟨{}, [], 0⟩ (lostResponse.take 10)).map (fun r => (r.2.filterMap startedOf).length) =
      some 1 ∧
    ∀ r ∈ (runs fun _ => "").exec ⟨{}, [], 0⟩ (lostResponse.take 10),
      ∀ o ∈ r.2.filterMap startedOf, Recoverable r.1.shared o :=
  ⟨by decide +kernel, fun _ hr => started_payouts_recoverable (Machine.reaches_of_exec ⟨⟨rfl, rfl⟩, rfl, rfl⟩ hr)⟩

end

end Manifold.Guardian.Payouts
