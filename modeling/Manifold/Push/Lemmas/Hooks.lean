import Manifold.Push.Lemmas.Outbox

/-!
# What a step does to the hooks
-/

namespace Manifold.Push

open Lib

structure Hook.Unused (env : Env) (h : Hook) : Prop where
  useCount : h.useCount = 0
  maxUses : ∀ m, h.maxUses = some m → 0 < m
  started : h.rateLimitWindowStartedAt = none
  window : ∃ w, h.rateLimitWindowSeconds = some w ∧ 0 < w
  maxRequests : ∃ m, h.rateLimitMaxRequests = some m ∧ 0 < m
  decodes : (env.decodeData h.content.dataJson).isSome = true

def windowStartOf (hookId : String) (db : Db) : Option Int :=
  (Table.lookup (·.hookId) hookId db.hooks).bind (·.rateLimitWindowStartedAt)

inductive HookStep (env : Env) (production : Bool) (s : Store) : Store → List Event → Prop where
  | keep {t : Store} {out : List Event} (clock : s.clock ≤ t.clock) (hooks : t.db.hooks = s.db.hooks)
      (tombstones : t.db.tombstones ⊆ s.db.tombstones) (quiet : ∀ e ∈ out, e.onHook = false) :
      HookStep env production s t out
  | drop {t : Store} {k : Hook → Bool} (clock : t.clock = s.clock) (hooks : t.db.hooks = s.db.hooks.filter k)
      (tombstones : t.db.tombstones ⊆ s.db.tombstones) : HookStep env production s t []
  | revoke {t : Store} {p : Hook → Bool} (clock : t.clock = s.clock)
      (hooks : t.db.hooks = Table.update p (fun h => { h with revokedAt := h.revokedAt.or (some s.clock) }) s.db.hooks)
      (tombstones : t.db.tombstones ⊆ s.db.tombstones) : HookStep env production s t []
  | create {t : Store} {k : Hook → Bool} {h : Hook} (clock : t.clock = s.clock)
      (hooks : t.db.hooks = s.db.hooks.filter k ++ [h])
      (fresh : ∀ h' ∈ s.db.hooks.filter k, h'.hookId ≠ h.hookId) (unused : h.Unused env)
      (tombstones : t.db.tombstones ⊆ s.db.tombstones) : HookStep env production s t [.hookCreated h.hookId]
  | enqueue {t : Store} {p : InvocationPolicy} {i : Invocation} {h : Hook} {r : Registration} (clock : t.clock = s.clock)
      (he : Enqueues env production s.clock p i h r s.db t.db) :
      HookStep env production s t
        [.inserted i.outboxId, .enqueued i.hookId i.idempotencyKey 1 s.clock (windowStartOf i.hookId t.db)]

/-! ## Calls -/

section calls

variable {env : Env} {production : Bool} {s t : Store}

theorem lostRows_onHook {db db'} : ∀ e ∈ lostRows db db', e.onHook = false := by
  intro e he
  obtain ⟨r, -, rfl⟩ := List.mem_map.mp he
  rfl

theorem applyAdmin_onHook (s : Store) (a : Admin) (now : Int) (ids : List String) :
    ∀ e ∈ (applyAdmin s a now ids).2, e.onHook = false := by
  unfold applyAdmin
  split
  · split
    · split
      · simp
      · intro e he
        obtain ⟨id, -, rfl⟩ := List.mem_map.mp he
        rfl
    · simp
  · split
    · simp
    · exact lostRows_onHook

theorem hookStep_of_resume {p x q out} (h : resume env s p x = some (t, q, out)) : HookStep env production s t out := by
  unfold resume at h
  split at h
  case h_1 =>
    unfold claimDue at h
    split at h
    · cases h
    · obtain ⟨r, -, h⟩ := Option.map_eq_some_iff.mp h
      cases h
      exact .keep (Int.le_refl _) rfl (List.Subset.refl _) (by simp [Event.onHook])
  case h_2 =>
    split at h <;> cases h
    exact .keep (Int.le_refl _) rfl (List.Subset.refl _) (by simp)
  all_goals cases h
  case h_6 =>
    unfold markInvalidTokenAndDisableRegistration
    split <;> exact .keep (Int.le_refl _) rfl (List.Subset.refl _) (by simp)
  case h_10 _ _ a now ids =>
    obtain ⟨rows, hrows⟩ := applyAdmin_frame s a now ids
    refine .keep (Int.le_refl _) ?_ ?_ (applyAdmin_onHook s a now ids)
    · simp [Store.put, hrows]
    · simp [Store.put, hrows]
  -- the other awaits touch no hook and no tombstone
  all_goals exact .keep (Int.le_refl _) rfl (List.Subset.refl _) (by simp)

end calls

/-! ## Requests and housekeeping -/

section requests

variable {env : Env} {production : Bool} {s t : Store} {db : Db}

theorem purgeExpiredInTransaction_tombstones (now : Int) (n : Nat) (tie : Tombstone → Nat) :
    (purgeExpiredInTransaction now n tie db).tombstones ⊆ db.tombstones := by
  unfold purgeExpiredInTransaction
  split
  · exact List.Subset.refl _
  · exact fun t ht => List.mem_of_mem_filter ht

theorem purgeExpiredInTransaction_hooks (now : Int) (n : Nat) (tie : Tombstone → Nat) :
    (purgeExpiredInTransaction now n tie db).hooks = db.hooks := by
  unfold purgeExpiredInTransaction
  split <;> rfl

theorem purgeTerminalInTransaction_cases
    (now : Int) (n : Nat) (tie : Hook → Nat) (tie' : Tombstone → Nat) (db : Db) :
    (∃ kept, (purgeTerminalInTransaction now n tie tie' db).hooks = db.hooks.filter kept) ∧
      (purgeTerminalInTransaction now n tie tie' db).tombstones ⊆ db.tombstones := by
  unfold purgeTerminalInTransaction
  split
  · exact ⟨⟨fun _ => true, by simp⟩, List.Subset.refl _⟩
  · simp only [deleteHooks, purgeExpiredInTransaction_hooks]
    exact ⟨⟨_, rfl⟩, fun t ht => purgeExpiredInTransaction_tombstones now n tie' (List.mem_of_mem_filter ht)⟩

theorem newHook_unused {now req draw} (h : ((newHook env now req draw).insertable db &&
      (env.decodeData (newHook env now req draw).content.dataJson).isSome) = true) :
    (newHook env now req draw).Unused env ∧ ∀ h' ∈ db.hooks, h'.hookId ≠ draw.hookId := by
  simp only [Hook.insertable, Bool.and_eq_true, Bool.not_eq_true', List.any_eq_false, Bool.or_eq_true, beq_iff_eq,
    not_or] at h
  obtain ⟨⟨⟨hkeys, hwindow⟩, hmax⟩, hdecodes⟩ := h
  refine ⟨⟨rfl, fun m hm => ?_, rfl, ?_, ?_, hdecodes⟩, fun h' hh' => (hkeys h' hh').1⟩
  · have hpos := (Option.filter_eq_some_iff.mp hm).2
    simpa using hpos
  · obtain ⟨w, hw⟩ : ∃ w, (newHook env now req draw).rateLimitWindowSeconds = some w := by
      cases hr : req.windowSeconds <;> simp [newHook, hr]
    rw [hw] at hwindow
    exact ⟨w, hw, by simpa using hwindow⟩
  obtain ⟨m, hm⟩ : ∃ m, (newHook env now req draw).rateLimitMaxRequests = some m := by
    cases hr : req.maxRequests <;> simp [newHook, hr]
  rw [hm] at hmax
  exact ⟨m, hm, by simpa using hmax⟩

theorem hookStep_admitHook (s : Store) (cutoff : Int) (req : CreateHookRequest) (limits : AdmissionLimits)
    (draw : HookDraw) (tie : Hook → Nat) (tie' : Tombstone → Nat) :
    HookStep env production s (s.put (admitHook env s.clock cutoff req limits draw tie tie' s.db).2)
      (hookEvents (admitHook env s.clock cutoff req limits draw tie tie' s.db).1) := by
  obtain ⟨⟨kept, hhooks⟩, htombs⟩ :=
    purgeTerminalInTransaction_cases s.clock limits.reclamationBatchSize tie tie' s.db
  unfold admitHook
  dsimp only
  split
  · rename_i refusal hrefusal
    refine .keep (Int.le_refl _) rfl (List.Subset.refl _) ?_
    -- a refusal is not an admission
    unfold hookRefusal at hrefusal
    split at hrefusal
    · cases hrefusal
      simp [hookEvents]
    split at hrefusal
    · cases hrefusal
      simp [hookEvents]
    split at hrefusal
    · cases hrefusal
      simp [hookEvents]
    split at hrefusal
    · cases hrefusal
      simp [hookEvents]
    · cases hrefusal
  split
  · rename_i hok
    obtain ⟨hunused, hfresh⟩ := newHook_unused hok
    rw [hhooks] at hfresh
    exact .create (k := kept) rfl (by simp [Store.put, hhooks]) hfresh hunused htombs
  · exact .keep (Int.le_refl _) rfl (List.Subset.refl _) (by simp [hookEvents])

theorem hookStep_invoke (env : Env) (production : Bool) (s : Store) (p : InvocationPolicy) (i : Invocation) :
    HookStep env production s (s.put (acceptInvocation env production s.clock p i s.db).2)
      (invocationEvents i s.clock (acceptInvocation env production s.clock p i s.db).1
        (acceptInvocation env production s.clock p i s.db).2) := by
  rcases acceptInvocation_cases env production s.clock p i s.db with ⟨h, r, hok, he⟩ | ⟨hsame, hnone⟩
  · rw [hok]
    exact .enqueue rfl he
  refine .keep (Int.le_refl _) (by rw [hsame]; rfl) (by rw [hsame]; exact List.Subset.refl _) fun e hmem => ?_
  unfold invocationEvents at hmem
  split at hmem
  · rename_i n hok
    cases hnone _ hok
  · cases hmem

theorem hookStep_of_outside {b out} (h : outside env production s b = some (t, out)) :
    HookStep env production s t out := by
  cases b with
  | tick later =>
    simp only [outside] at h
    split at h
    · rename_i hle
      cases h
      exact .keep hle rfl (List.Subset.refl _) (by simp)
    · cases h
  | restart | expire | deleteInstallation | disableInstallation | disableIfTokenMatches =>
    cases h
    exact .keep (Int.le_refl _) rfl (List.Subset.refl _) (by simp)
  | purgeRetained cutoff idempotencyCutoff =>
    cases h
    exact .keep (Int.le_refl _) rfl (fun t ht => List.mem_of_mem_filter ht) lostRows_onHook
  | purgeStale cutoff =>
    cases h
    refine .keep (Int.le_refl _) ?_ ?_ (by simp)
    · simp only [Store.put, purgeStale, purgeOrphanedTokenOwners]
      split <;> rfl
    · simp only [Store.put, purgeStale, purgeOrphanedTokenOwners]
      split <;> exact List.Subset.refl _
  | purgeTombstones =>
    cases h
    exact .keep (Int.le_refl _) rfl (fun t ht => List.mem_of_mem_filter ht) (by simp)
  | purgeHooks =>
    cases h
    exact .drop rfl rfl fun t ht => List.mem_of_mem_filter ht
  | admitInstallation req cutoff limits tie =>
    simp only [outside] at h
    split at h
    · cases h
      have hframe : ∃ registrations owners, (admitInstallation req cutoff s.db s.clock limits tie).2 =
          { s.db with registrations, owners } := by
        unfold admitInstallation purgeStaleInTransaction purgeOrphanedTokenOwners
        dsimp only
        split
        · exact ⟨_, _, rfl⟩
        · split <;> exact ⟨_, _, rfl⟩
      obtain ⟨registrations, owners, hframe⟩ := hframe
      exact .keep (Int.le_refl _) (by simp [Store.put, hframe]) (by simp [Store.put, hframe]) (by simp)
    · cases h
  | admitHook req cutoff limits draw tie tombstoneTie =>
    cases h
    exact hookStep_admitHook s cutoff req limits draw tie tombstoneTie
  | revoke hookId recipientId =>
    cases h
    exact .revoke rfl rfl (List.Subset.refl _)
  | invoke p i =>
    cases h
    exact hookStep_invoke env production s p i

end requests

end Manifold.Push
