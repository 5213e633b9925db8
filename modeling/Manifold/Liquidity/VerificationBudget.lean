import Manifold.Lib.Machine
import Manifold.Lib.Table

/-!
# The verification budget

`verification_budget.rs`. An `Instant` is a number, and `duration_since` is zero for a later instant.
-/

namespace Manifold.Liquidity

open Lib

structure VerificationEntry where
  federationId : String
  windowStarted : Nat
  spent : Nat
  exhaustionLogged : Bool

structure VerificationBudget where
  window : Nat
  perWindow : Nat
  maxTracked : Nat

namespace VerificationBudget

variable (b : VerificationBudget)

def put (entries : List VerificationEntry) (entry : VerificationEntry) : List VerificationEntry :=
  Table.update (·.federationId = entry.federationId) (fun _ => entry) entries

def trySpend (federationId : String) (now : Nat) (entries : List VerificationEntry) : Bool × List VerificationEntry :=
  match Table.lookup (·.federationId) federationId entries with
  | some entry =>
    if b.window ≤ now - entry.windowStarted then
      (true, put entries { entry with windowStarted := now, spent := 1, exhaustionLogged := false })
    else if b.perWindow ≤ entry.spent then (false, put entries { entry with exhaustionLogged := true })
    else (true, put entries { entry with spent := entry.spent + 1 })
  | none =>
    let entries :=
      if b.maxTracked ≤ entries.length then entries.filter (fun e => now - e.windowStarted < b.window) else entries
    if b.maxTracked ≤ entries.length then (false, entries) else (true, entries ++ [⟨federationId, now, 1, false⟩])

structure State where
  entries : List VerificationEntry
  clock : Nat

/-- A call, and the window that is tracked for its federation when it returns. -/
structure Call where
  federationId : String
  time : Nat
  granted : Bool
  window : Option Nat

def machine : Machine State (String × Nat) Call where
  init s := s.entries = []
  step s a :=
    if s.clock ≤ a.2 then
      let r := b.trySpend a.1 a.2 s.entries
      some (⟨r.2, a.2⟩, [⟨a.1, a.2, r.1, (Table.lookup (·.federationId) a.1 r.2).map (·.windowStarted)⟩])
    else none

def grants (federationId : String) (start : Nat) (calls : List Call) : Nat :=
  calls.countP (fun c =>
    c.federationId = federationId && c.granted && c.window = some start && c.time < start + b.window)

def counts (e : VerificationEntry) : String × Nat × Nat := (e.federationId, e.windowStarted, e.spent)

/-- The call charged another federation or nothing, it spent within the entry's window, or it started a window. -/
inductive Origin (f : String) (now : Nat) (t : List VerificationEntry) (ok : Bool) (e' : VerificationEntry) : Prop where
  | same (e : VerificationEntry) (he : e ∈ t) (hid : e'.federationId = e.federationId)
      (hst : e'.windowStarted = e.windowStarted) (hsp : e'.spent = e.spent) (hne : e.federationId = f → ok = false)
  | again (e : VerificationEntry) (he : e ∈ t) (hopen : now - e.windowStarted < b.window) (hroom : e.spent < b.perWindow)
      (hid : e'.federationId = e.federationId) (hst : e'.windowStarted = e.windowStarted) (hsp : e'.spent = e.spent + 1)
  | fresh (hover : ∀ e ∈ t, e.federationId = f → b.window ≤ now - e.windowStarted) 
      (hid : e'.federationId = f) (hst : e'.windowStarted = now) (hsp : e'.spent = 1)

structure Spends (f : String) (now : Nat) (t t' : List VerificationEntry) (ok : Bool) : Prop where
  keyed : Table.Keyed (·.federationId) t'
  bound : t'.length ≤ b.maxTracked
  stays : ∀ e ∈ t, now - e.windowStarted < b.window → ∃ e' ∈ t', e'.federationId = e.federationId ∧
    e'.windowStarted = e.windowStarted ∧ e.spent ≤ e'.spent
  origin : ∀ e' ∈ t', b.Origin f now t ok e'
  tracked : ok = true → ∃ e' ∈ t', e'.federationId = f
  refused : ok = false → t'.map counts = t.map counts

variable {b} {f : String} {now : Nat} {t : List VerificationEntry} {ok : Bool}

theorem spends_put {e e'} (hk : Table.Keyed (·.federationId) t) (hb : t.length ≤ b.maxTracked)
    (he : e ∈ t) (hf : e.federationId = f) (hid : e'.federationId = e.federationId) (ho : b.Origin f now t ok e')
    (hopen : now - e.windowStarted < b.window → e'.windowStarted = e.windowStarted ∧ e.spent ≤ e'.spent)
    (href : ok = false → counts e' = counts e) : b.Spends f now t (put t e') ok where
  keyed := hk.update fun r hr => by simpa using (of_decide_eq_true hr).symm
  bound := by simpa [put, Table.update] using hb
  stays r hr hlive := by
    by_cases h : r.federationId = e'.federationId
    · cases hk.eq hr he (h.trans hid)
      exact ⟨e', Table.mem_update.mpr ⟨e, he, by simp [h]⟩, hid, hopen hlive⟩
    · exact ⟨r, Table.mem_update.mpr ⟨r, hr, by simp [h]⟩, rfl, rfl, Nat.le_refl _⟩
  origin r' hr' := by
    obtain ⟨r, hr, rfl⟩ := Table.mem_update.mp hr'
    split
    · exact ho
    · rename_i h
      exact .same r hr rfl rfl rfl fun hrf => absurd (hrf.trans (hf.symm.trans hid.symm)) (by simpa using h)
  tracked _ := ⟨e', Table.mem_update.mpr ⟨e, he, by simp [hid]⟩, hid.trans hf⟩
  refused h := by
    refine List.map_map.trans (List.map_congr_left fun r hr => ?_)
    dsimp only [Function.comp_apply]
    split
    · rename_i hp
      rw [hk.eq hr he ((of_decide_eq_true hp).trans hid)]
      exact href h
    · rfl

theorem trySpend_spends (hk : Table.Keyed (·.federationId) t) (hb : t.length ≤ b.maxTracked) :
    b.Spends f now t (b.trySpend f now t).2 (b.trySpend f now t).1 := by
  unfold trySpend
  split
  · rename_i e he
    obtain ⟨he, hf⟩ := Table.lookup_mem he
    split
    · rename_i hover
      refine spends_put hk hb he hf rfl (.fresh (fun r hr hrf => ?_) hf rfl rfl) ?_ nofun
      · rw [hk.eq hr he (hrf.trans hf.symm)]
        exact hover
      · omega
    split
    · exact spends_put hk hb he hf rfl (.same e he rfl rfl rfl fun _ => rfl) (fun _ => ⟨rfl, Nat.le_refl _⟩) fun _ => rfl
    · exact spends_put hk hb he hf rfl (.again e he (by omega) (by omega) rfl rfl rfl) (fun _ => ⟨rfl, Nat.le_succ _⟩) nofun
  rename_i hnone
  have hnone := Table.lookup_eq_none.mp hnone
  generalize hkept : (if b.maxTracked ≤ t.length then
    t.filter (fun e => now - e.windowStarted < b.window) else t) = kept
  have hsub : kept.Sublist t := by
    rw [← hkept]
    split
    · exact List.filter_sublist
    · exact .refl t
  have hlive : ∀ e ∈ t, now - e.windowStarted < b.window → e ∈ kept := by
    intro e he hopen
    rw [← hkept]
    split
    · exact List.mem_filter.mpr ⟨he, decide_eq_true hopen⟩
    · exact he
  dsimp only
  split
  · rename_i hfull
    -- nothing was evicted, as the table was not longer than its bound
    have hsame : kept = t := hsub.eq_of_length_le (hb.trans hfull)
    rw [hsame]
    exact ⟨hk, hb, fun e he _ => ⟨e, he, rfl, rfl, Nat.le_refl _⟩, fun e he => .same e he rfl rfl rfl fun _ => rfl, nofun,
      fun _ => rfl⟩
  · rename_i hroom
    refine ⟨Table.Keyed.append (hk.sublist (hsub.map _)) fun e he => hnone e (hsub.mem he), ?_, fun e he hopen => ?_, fun e he => ?_,
      fun _ => ⟨_, List.mem_append_right _ List.mem_cons_self, rfl⟩, nofun⟩
    · rw [List.length_append, List.length_singleton]
      omega
    · exact ⟨e, List.mem_append_left _ (hlive e he hopen), rfl, rfl, Nat.le_refl _⟩
    rcases Lib.mem_snoc.mp he with he | rfl
    · exact .same e (hsub.mem he) rfl rfl rfl fun hf => absurd hf (hnone e (hsub.mem he))
    · exact .fresh (fun r hr hf => absurd hf (hnone r hr)) rfl rfl rfl

/-! ## Runs -/

theorem grants_snoc (f : String) (start : Nat) (es : List Call) (c : Call) :
    b.grants f start (es ++ [c]) = b.grants f start es ∨
      (c.federationId = f ∧ c.granted = true ∧ c.window = some start) ∧
        b.grants f start (es ++ [c]) = b.grants f start es + 1 := by
  unfold grants
  rw [List.countP_append, List.countP_singleton]
  split
  · rename_i h
    simp only [Bool.and_eq_true, decide_eq_true_eq] at h
    exact .inr ⟨⟨h.1.1.1, h.1.1.2, h.1.2⟩, rfl⟩
  · exact .inl rfl

structure Inv (b : VerificationBudget) (es : List Call) (s : State) : Prop where
  keyed : Table.Keyed (·.federationId) s.entries
  bound : s.entries.length ≤ b.maxTracked
  entry : ∀ e ∈ s.entries, e.windowStarted ≤ s.clock ∧ e.spent ≤ max 1 b.perWindow ∧
    b.grants e.federationId e.windowStarted es ≤ e.spent
  call : ∀ c ∈ es, c.granted = true → ∃ start, c.window = some start ∧
    (start ≤ c.time ∧ (c.time = start ∨ c.time < start + b.window)) ∧
    (start + b.window ≤ s.clock ∨ ∃ e ∈ s.entries, e.federationId = c.federationId ∧ e.windowStarted = start)
  full : ∀ f start, b.grants f start es ≤ max 1 b.perWindow

variable {es : List Call} {s : State} {c : Call} {t' : List VerificationEntry} {e : VerificationEntry}

theorem Inv.none_now (h : b.Inv es s) (hle : s.clock ≤ now)
    (hover : ∀ e ∈ s.entries, e.federationId = f → b.window ≤ now - e.windowStarted) : b.grants f now es = 0 := by
  refine List.countP_eq_zero.mpr fun c hc hp => ?_
  simp only [Bool.and_eq_true, decide_eq_true_eq] at hp
  obtain ⟨start, hw, ⟨hs, -⟩, hend⟩ := h.call c hc hp.1.1.2
  cases hw.symm.trans hp.1.2
  rcases hend with hend | ⟨e, he, hf, hstart⟩
  · omega
  · have := hover e he (hf.trans hp.1.1.1)
    omega

theorem Inv.origin (h : b.Inv es s) (hle : s.clock ≤ c.time) (ho : b.Origin c.federationId c.time s.entries c.granted e) :
    e.windowStarted ≤ c.time ∧ e.spent ≤ max 1 b.perWindow ∧
      b.grants e.federationId e.windowStarted (es ++ [c]) ≤ e.spent := by
  have hsnoc := grants_snoc (b := b) e.federationId e.windowStarted es c
  cases ho with
  | same e₀ he hid hst hsp hne =>
    rw [hid, hst] at hsnoc ⊢
    obtain ⟨h₁, h₂, h₃⟩ := h.entry e₀ he
    rcases hsnoc with hsame | ⟨⟨hf, hok, -⟩, -⟩
    · omega
    · cases (hne hf.symm).symm.trans hok
  | again e₀ he hopen hroom hid hst hsp =>
    rw [hid, hst] at hsnoc ⊢
    have := h.entry e₀ he
    omega
  | fresh hover hid hst hsp =>
    rw [hid, hst] at hsnoc ⊢
    have := h.none_now hle hover
    omega

theorem Origin.inside (ho : b.Origin f now t true e) (hf : e.federationId = f) :
    now = e.windowStarted ∨ now < e.windowStarted + b.window := by
  cases ho with
  | same e₀ _ hid _ _ hne => cases hne (hid.symm.trans hf)
  | again | fresh => omega

theorem Inv.spend (h : b.Inv es s) (hle : s.clock ≤ c.time)
    (hs : b.Spends c.federationId c.time s.entries t' c.granted)
    (hw : c.window = (Table.lookup (·.federationId) c.federationId t').map (·.windowStarted)) :
    b.Inv (es ++ [c]) ⟨t', c.time⟩ where
  keyed := hs.keyed
  bound := hs.bound
  entry e he := h.origin hle (hs.origin e he)
  call c' hc' hg := by
    rcases List.mem_append.mp hc' with hc' | hc'
    · obtain ⟨start, hw, htime, hend⟩ := h.call c' hc' hg
      refine ⟨start, hw, htime, ?_⟩
      rcases hend with hend | ⟨e, he, hf, hst⟩
      · exact .inl (hend.trans hle)
      by_cases hopen : c.time - e.windowStarted < b.window
      · obtain ⟨e', he', hf', hst', -⟩ := hs.stays e he hopen
        exact .inr ⟨e', he', hf'.trans hf, hst'.trans hst⟩
      · have := (h.entry e he).1
        exact .inl (by show start + b.window ≤ c.time; omega)
    · cases List.mem_singleton.mp hc'
      obtain ⟨e, he, hf⟩ := hs.tracked hg
      have hl := hf ▸ hs.keyed.lookup he
      exact ⟨e.windowStarted, by rw [hw, hl]; rfl, ⟨(h.origin hle (hs.origin e he)).1,
        (hg ▸ hs.origin e he).inside hf⟩, .inr ⟨e, he, hf, rfl⟩⟩
  full f start := by
    rcases grants_snoc (b := b) f start es c with hsame | ⟨⟨hf, -, hstart⟩, -⟩
    · rw [hsame]
      exact h.full f start
    obtain ⟨e, hl, rfl⟩ := Option.map_eq_some_iff.mp (hw.symm.trans hstart)
    obtain ⟨he, hid⟩ := Table.lookup_mem hl
    obtain ⟨-, h₂, h₃⟩ := h.origin hle (hs.origin e he)
    rw [← hf, ← hid]
    exact h₃.trans h₂

theorem step_cases {a u out} (hs : b.machine.step s a = some (u, out)) : s.clock ≤ a.2 ∧
    u = ⟨(b.trySpend a.1 a.2 s.entries).2, a.2⟩ ∧ out = [⟨a.1, a.2, (b.trySpend a.1 a.2 s.entries).1,
      (Table.lookup (·.federationId) a.1 (b.trySpend a.1 a.2 s.entries).2).map (·.windowStarted)⟩] := by
  simp only [machine] at hs
  split at hs
  · rename_i hle
    cases hs
    exact ⟨hle, rfl, rfl⟩
  · cases hs

theorem inv_of_reaches (h : b.machine.Reaches es s) : b.Inv es s := by
  refine h.induct (fun s hs => ?_) fun _ _ _ _ _ _ hI hs => ?_
  · have hs : s.entries = [] := hs
    exact ⟨by simp [hs, Table.Keyed], by simp [hs], by simp [hs], by simp, by simp [grants]⟩
  · obtain ⟨hle, rfl, rfl⟩ := step_cases hs
    exact hI.spend hle (trySpend_spends hI.keyed hI.bound) rfl

theorem budget_enforced (h : b.machine.Reaches es s) :
    (∀ c ∈ es, c.granted = true → ∃ start, c.window = some start ∧
      start ≤ c.time ∧ (c.time = start ∨ c.time < start + b.window)) ∧
    (∀ f start, b.grants f start es ≤ max 1 b.perWindow) ∧ s.entries.length ≤ b.maxTracked ∧
    ∀ a t out, b.machine.step s a = some (t, out) →
      (∀ e ∈ s.entries, a.2 - e.windowStarted < b.window → ∃ e' ∈ t.entries,
        e'.federationId = e.federationId ∧ e'.windowStarted = e.windowStarted ∧ e.spent ≤ e'.spent) ∧
      ∀ c ∈ out, c.granted = false → t.entries.map counts = s.entries.map counts := by
  have hI := inv_of_reaches h
  refine ⟨fun c hc hg => ?_, hI.full, hI.bound, fun a t out hs => ?_⟩
  · obtain ⟨start, hw, htime, -⟩ := hI.call c hc hg
    exact ⟨start, hw, htime⟩
  obtain ⟨-, rfl, rfl⟩ := step_cases hs
  have hsp : b.Spends a.1 a.2 _ _ _ := trySpend_spends hI.keyed hI.bound
  exact ⟨hsp.stays, by simpa using hsp.refused⟩

def spendings : List Call :=
  [⟨"a", 0, true, some 0⟩, ⟨"a", 1, false, some 0⟩, ⟨"b", 2, false, none⟩, ⟨"a", 5, true, some 5⟩,
    ⟨"b", 10, true, some 10⟩]

/-- A window is renewed, and its entry is dropped for another federation once it is over. -/
theorem budget_enforced_evicted :
    ∃ s, (machine ⟨5, 1, 1⟩).exec ⟨[], 0⟩ (spendings.map fun c => (c.federationId, c.time)) = some (s, spendings) ∧
      s.entries.map counts = [("b", 10, 1)] ∧ s.entries.length ≤ 1 ∧
      (∀ f start, grants ⟨5, 1, 1⟩ f start spendings ≤ 1) ∧
      ∀ a t out, (machine ⟨5, 1, 1⟩).step s a = some (t, out) → ∀ c ∈ out, c.granted = false →
        t.entries.map counts = s.entries.map counts := by
  have hexec : (machine ⟨5, 1, 1⟩).exec ⟨[], 0⟩ (spendings.map fun c => (c.federationId, c.time)) =
      some (⟨[⟨"b", 10, 1, false⟩], 10⟩, spendings) := rfl
  have hr := Machine.reaches_of_exec rfl hexec
  obtain ⟨-, hgrants, hlength, hstep⟩ := budget_enforced hr
  exact ⟨_, hexec, rfl, hlength, hgrants, fun a t out hs => (hstep a t out hs).2⟩

/-- A budget of zero still grants the call that starts a window. -/
theorem zero_budget_grants : ∃ s, (machine ⟨5, 0, 1⟩).Reaches [⟨"a", 0, true, some 0⟩] s ∧
    0 < grants ⟨5, 0, 1⟩ "a" 0 [⟨"a", 0, true, some 0⟩] := by
  have hexec : (machine ⟨5, 0, 1⟩).exec ⟨[], 0⟩ [("a", 0)] =
      some (⟨[⟨"a", 0, 1, false⟩], 0⟩, [⟨"a", 0, true, some 0⟩]) := rfl
  exact ⟨_, Machine.reaches_of_exec rfl hexec, by decide⟩

end VerificationBudget

end Manifold.Liquidity
