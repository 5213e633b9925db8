import Manifold.Lib.Trace
import Manifold.Push.Gateway
import Manifold.Push.Lemmas.Invoke

/-!
# What a step does to the outbox
-/

namespace Manifold.Push

open Lib

/-! ## The history of a row -/

def log (es : List (Service.Note Event)) : List Event := es.map (·.2)

@[simp] theorem log_append (es fs : List (Service.Note Event)) : log (es ++ fs) = log es ++ log fs :=
  List.map_append

@[simp] theorem log_map (n : Option Nat) (out : List Event) : log (out.map (fun e => (n, e))) = out := by
  simp [log, Function.comp_def]

def Event.onHook : Event → Bool
  | .hookCreated _ | .enqueued _ _ _ _ _ => true
  | _ => false

def life (outboxId : String) (es : List Event) : List Event := Trace.since (· == .inserted outboxId) es

def Event.claimOf (outboxId : String) : Event → Option String
  | .claimed o c => if o = outboxId then some c else none
  | _ => none

def latestClaim (outboxId : String) (es : List Event) : Option String :=
  ((life outboxId es).filterMap (·.claimOf outboxId)).getLast?

def WasReplayed (outboxId : String) (es : List Event) : Prop := .replayed outboxId ∈ life outboxId es

section history

variable {outboxId : String} {es out : List Event}

theorem life_append (h : .inserted outboxId ∉ out) : life outboxId (es ++ out) = life outboxId es ++ out :=
  Trace.since_append fun e he => by
    rw [beq_eq_false_iff_ne]
    rintro rfl
    exact h he

theorem latestClaim_append (hi : .inserted outboxId ∉ out) (hc : ∀ c, .claimed outboxId c ∉ out) :
    latestClaim outboxId (es ++ out) = latestClaim outboxId es := by
  have hnone : out.filterMap (·.claimOf outboxId) = [] := by
    rw [List.filterMap_eq_nil_iff]
    intro e he
    cases e with
    | claimed o c =>
      by_cases ho : o = outboxId
      · exact absurd (ho ▸ he) (hc c)
      · simp [Event.claimOf, ho]
    | _ => rfl
  rw [latestClaim, life_append hi, List.filterMap_append, hnone, List.append_nil, latestClaim]

theorem latestClaim_claimed (c : String) : latestClaim outboxId (es ++ [.claimed outboxId c]) = some c := by
  rw [latestClaim, life_append (by simp), List.filterMap_append]
  simp [Event.claimOf]

theorem WasReplayed.append (h : WasReplayed outboxId es) (hi : .inserted outboxId ∉ out) :
    WasReplayed outboxId (es ++ out) := by
  rw [WasReplayed, life_append hi]
  exact List.mem_append_left _ h

theorem wasReplayed_of_mem (hi : .inserted outboxId ∉ out) (h : .replayed outboxId ∈ out) :
    WasReplayed outboxId (es ++ out) := by
  rw [WasReplayed, life_append hi]
  exact List.mem_append_right _ h

end history

/-! ## The changes of a row -/

def Phase.mark : Phase → Option (String × String)
  | .corrupted o c | .marking o c _ _ _ => some (o, c)
  | .succeeding d | .invalidating d _ => some (d.outboxId, d.claimId)
  | _ => none

inductive RowStep (s : Store) : Option Phase → OutboxRow → OutboxRow → Prop where
  | succeed {d : ClaimedDelivery} {r : OutboxRow} (held : r.heldBy d.outboxId d.claimId = true)
      (before : r.beforeDeadline s.clock = true) : RowStep s (some (.succeeding d)) r (r.succeeded s.clock)
  | fail {o c : String} {now : Int} {v : Verdict} {reason : String} {r : OutboxRow} (held : r.heldBy o c = true) :
      RowStep s (some (.marking o c now v reason)) r (r.failed now s.clock v.status v.nextAttemptAt reason)
  | invalid {d : ClaimedDelivery} {reason : String} {r : OutboxRow} (held : r.heldBy d.outboxId d.claimId = true) :
      RowStep s (some (.invalidating d reason)) r (r.attempted s.clock .invalidToken s.clock reason)
  | corrupt {o c reason : String} {r : OutboxRow} (held : r.heldBy o c = true) :
      RowStep s (some (.corrupted o c)) r (r.attempted s.clock .deadLetter s.clock reason)
  | reset {r : OutboxRow} (held : r.status = .inProgress) : RowStep s none r (r.reset s.clock)
  | expire {r : OutboxRow} (active : r.status.active = true) : RowStep s none r (r.expired s.clock)

inductive OutboxStep (s : Store) : Option Phase → Store → List Event → Prop where
  | quiet {p : Option Phase} {t : Store} {out : List Event} (outbox : t.db.outbox = s.db.outbox)
      (issued : t.issued = s.issued) (hooks : ∀ e ∈ out, e.onHook = true) : OutboxStep s p t out
  | claim {r : OutboxRow} {c : String} {t : Store} (mem : r ∈ s.db.outbox) (claimable : r.claimable s.clock = true)
      (fresh : c ∉ s.issued)
      (outbox : t.db.outbox = Table.update (fun r' => r'.outboxId == r.outboxId && r'.claimable s.clock)
        (·.claimed s.clock c) s.db.outbox)
      (issued : t.issued = s.issued ++ [c]) : OutboxStep s (some .claiming) t [.claimed r.outboxId c]
  | rewrite {p : Option Phase} {t : Store} {g : OutboxRow → Bool} {f : OutboxRow → OutboxRow}
      (outbox : t.db.outbox = Table.update g f s.db.outbox) (row : ∀ r, g r = true → RowStep s p r (f r))
      (issued : t.issued = s.issued) : OutboxStep s p t []
  | replay {a : Admin} {now : Int} {ids : List String} {t : Store} {g : OutboxRow → OutboxRow} (command : a.replay = true)
      (outbox : t.db.outbox = s.db.outbox.map g)
      (row : ∀ r, g r = r ∨ r.outboxId ∈ ids ∧ r.status = .deadLetter ∧ r.beforeDeadline s.clock = true ∧
        g r = r.replayed now)
      (issued : t.issued = s.issued) : OutboxStep s (some (.applying a now ids)) t (ids.map .replayed)
  | remove {p : Option Phase} {t : Store} {keep : OutboxRow → Bool} (unmarked : ∀ q, p = some q → q.mark = none)
      (outbox : t.db.outbox = s.db.outbox.filter keep) (row : ∀ r, keep r = false → r.status.terminal = true)
      (issued : t.issued = s.issued) : OutboxStep s p t (lostRows s.db t.db)
  | insert {r : OutboxRow} {e : Event} {t : Store} (hook : e.onHook = true) (pending : r.status = .pending)
      (attempts : r.attempts = 0) (unclaimed : r.claimId = none) (created : r.createdAt = s.clock)
      (fresh : ∀ r' ∈ s.db.outbox, r'.outboxId ≠ r.outboxId)
      (outbox : t.db.outbox = s.db.outbox ++ [r]) (issued : t.issued = s.issued) :
      OutboxStep s none t [.inserted r.outboxId, e]

/-! ## Calls -/

section calls

variable {env : Env} {s t : Store} {p : Phase} {x : Choice} {q : Option Phase} {out : List Event}

theorem replayAll_outbox {clock now ids db db'} (h : replayAll clock now ids db = .ok db') :
    ∃ g : OutboxRow → OutboxRow, db'.outbox = db.outbox.map g ∧
      ∀ r, g r = r ∨ r.outboxId ∈ ids ∧ r.status = .deadLetter ∧ r.beforeDeadline clock = true ∧ g r = r.replayed now := by
  induction ids generalizing db with
  | nil =>
    cases h
    exact ⟨id, by simp, fun r => .inl rfl⟩
  | cons id ids ih =>
    simp only [replayAll] at h
    split at h
    · obtain ⟨g, hg, hrow⟩ := ih h
      refine ⟨fun r => g (if r.replayable clock id then r.replayed now else r), ?_, fun r => ?_⟩
      · simp only [hg, Table.update, List.map_map]
        rfl
      dsimp only
      split
      · rename_i hr
        simp only [OutboxRow.replayable, Bool.and_eq_true, beq_iff_eq] at hr
        obtain ⟨⟨hid, hdead⟩, hbefore⟩ := hr
        refine .inr ⟨by simp [hid], hdead, hbefore, ?_⟩
        -- a replayed row is no dead letter any more, so that the later updates pass it by
        rcases hrow (r.replayed now) with h' | ⟨-, h', -⟩
        · exact h'
        · simp [OutboxRow.replayed] at h'
      · rcases hrow r with h' | ⟨hmem, h'⟩
        · exact .inl h'
        · exact .inr ⟨List.mem_cons_of_mem _ hmem, h'⟩
    · cases h

theorem replayAll_frame {clock now ids db db'} (h : replayAll clock now ids db = .ok db') :
    ∃ rows, db' = { db with outbox := rows } := by
  induction ids generalizing db with
  | nil =>
    cases h
    exact ⟨_, rfl⟩
  | cons id ids ih =>
    simp only [replayAll] at h
    split at h
    · obtain ⟨rows, rfl⟩ := ih h
      exact ⟨rows, rfl⟩
    · cases h

theorem applyAdmin_frame (s : Store) (a : Admin) (now : Int) (ids : List String) :
    ∃ rows, (applyAdmin s a now ids).1 = { s.db with outbox := rows } := by
  unfold applyAdmin
  split
  · split
    · rename_i db hdb
      split
      · exact ⟨s.db.outbox, rfl⟩
      · exact replayAll_frame hdb
    · exact ⟨s.db.outbox, rfl⟩
  · split
    · exact ⟨s.db.outbox, rfl⟩
    · exact ⟨_, rfl⟩

theorem outboxStep_admin (s : Store) (a : Admin) (now : Int) (ids : List String) :
    OutboxStep s (some (.applying a now ids)) (s.put (applyAdmin s a now ids).1) (applyAdmin s a now ids).2 := by
  unfold applyAdmin
  split
  · rename_i hreplay
    split
    · rename_i db hdb
      split
      · exact .quiet rfl rfl (by simp)
      · obtain ⟨g, hg, hrow⟩ := replayAll_outbox hdb
        exact .replay hreplay hg hrow rfl
    · exact .quiet rfl rfl (by simp)
  split
  · exact .quiet rfl rfl (by simp)
  refine .remove (fun q hq => ?_) rfl (fun r hr => ?_) rfl
  · cases hq
    rfl
  · simp only [Bool.not_eq_false', Bool.and_eq_true, beq_iff_eq] at hr
    simp [hr.2, Status.terminal]

theorem outboxStep_claim {pick c} (h : claimDue env s pick c = some (t, q, out)) :
    OutboxStep s (some .claiming) t out := by
  unfold claimDue at h
  split at h
  · cases h
  rename_i hfresh
  obtain ⟨r, hr, h⟩ := Option.map_eq_some_iff.mp h
  cases h
  have hdue := List.find?_some hr
  simp only [OutboxRow.due, Bool.and_eq_true] at hdue
  exact .claim (List.mem_of_find?_eq_some hr) hdue.1.2.1 hfresh rfl rfl

theorem outboxStep_invalid (s : Store) (d : ClaimedDelivery) (reason : String) :
    OutboxStep s (some (.invalidating d reason)) (s.put (markInvalidTokenAndDisableRegistration s.clock d reason s.db))
      [] := by
  unfold markInvalidTokenAndDisableRegistration
  split
  · exact .rewrite rfl (fun r hr => .invalid hr) rfl
  · exact .quiet rfl rfl (by simp)

theorem outboxStep_of_resume (h : resume env s p x = some (t, q, out)) : OutboxStep s (some p) t out := by
  unfold resume at h
  split at h
  · exact outboxStep_claim h
  · split at h
    · cases h
    · cases h
      exact .quiet rfl rfl (by simp)
  · cases h
    exact .quiet rfl rfl (by simp)
  · cases h
    exact .rewrite rfl (fun r hr => .corrupt hr) rfl
  · cases h
    exact .rewrite rfl (fun r hr => .succeed (Bool.and_eq_true_iff.mp hr).1 (Bool.and_eq_true_iff.mp hr).2) rfl
  · cases h
    exact outboxStep_invalid s _ _
  · cases h
    exact .quiet rfl rfl (by simp)
  · cases h
    exact .rewrite rfl (fun r hr => .fail hr) rfl
  · cases h
    exact .quiet rfl rfl (by simp)
  · cases h
    exact outboxStep_admin s _ _ _
  · cases h

end calls

/-! ## Requests and housekeeping -/

section frames

variable {db : Db}

@[simp] theorem purgeOrphanedTokenOwners_outbox (cutoff : Int) (n : Nat) :
    (purgeOrphanedTokenOwners cutoff n db).outbox = db.outbox := by
  unfold purgeOrphanedTokenOwners
  split <;> rfl

@[simp] theorem purgeStaleInTransaction_outbox (cutoff : Int) (n : Nat) (tie : Registration → Nat) :
    (purgeStaleInTransaction cutoff n tie db).outbox = db.outbox := by
  unfold purgeStaleInTransaction
  split <;> simp

theorem admitInstallation_outbox (req : RegisterRequest) (cutoff now : Int) (limits : AdmissionLimits)
    (tie : Registration → Nat) : (admitInstallation req cutoff db now limits tie).2.outbox = db.outbox := by
  unfold admitInstallation
  dsimp only
  split
  · rfl
  · simp [register]

@[simp] theorem purgeTerminalInTransaction_outbox
    (now : Int) (n : Nat) (tie : Hook → Nat) (tie' : Tombstone → Nat) :
    (purgeTerminalInTransaction now n tie tie' db).outbox = db.outbox := by
  unfold purgeTerminalInTransaction
  split
  · rfl
  · simp only [deleteHooks, purgeExpiredInTransaction]
    split <;> rfl

theorem admitHook_outbox (env : Env) (now cutoff : Int) (req : CreateHookRequest) (limits : AdmissionLimits)
    (draw : HookDraw) (tie : Hook → Nat) (tie' : Tombstone → Nat) :
    (admitHook env now cutoff req limits draw tie tie' db).2.outbox = db.outbox := by
  unfold admitHook
  dsimp only
  split
  · rfl
  · split <;> simp

end frames

section requests

variable {env : Env} {production : Bool} {s t : Store} {out : List Event}

theorem outboxStep_invoke (env : Env) (production : Bool) (s : Store) (p : InvocationPolicy) (i : Invocation) :
    OutboxStep s none (s.put (acceptInvocation env production s.clock p i s.db).2)
      (invocationEvents i s.clock (acceptInvocation env production s.clock p i s.db).1
        (acceptInvocation env production s.clock p i s.db).2) := by
  rcases acceptInvocation_cases env production s.clock p i s.db with ⟨h, r, hok, he⟩ | ⟨hsame, hnone⟩
  · obtain ⟨json, houtbox⟩ := he.outbox
    rw [hok]
    exact OutboxStep.insert (s := s) (r := newDelivery s.clock i.eventId i.outboxId json r) rfl rfl rfl rfl rfl
      he.freshRow houtbox rfl
  rw [hsame]
  refine .quiet rfl rfl fun e hmem => ?_
  unfold invocationEvents at hmem
  split at hmem
  · rename_i n hok
    cases hnone _ hok
  · cases hmem

theorem outboxStep_of_outside {b} (h : outside env production s b = some (t, out)) : OutboxStep s none t out := by
  cases b with
  | tick later =>
    simp only [outside] at h
    split at h
    · cases h
      exact .quiet rfl rfl (by simp)
    · cases h
  | restart =>
    cases h
    exact .rewrite rfl (fun r hr => .reset (beq_iff_eq.mp hr)) rfl
  | expire =>
    cases h
    exact .rewrite rfl (fun r hr => .expire (Bool.and_eq_true_iff.mp hr).1) rfl
  | purgeRetained cutoff idempotencyCutoff =>
    cases h
    refine .remove (by simp) rfl (fun r hr => ?_) rfl
    simp only [Bool.not_eq_false', Bool.and_eq_true] at hr
    exact hr.1
  | admitInstallation req cutoff limits tie =>
    simp only [outside] at h
    split at h
    · cases h
      exact .quiet (admitInstallation_outbox ..) rfl (by simp)
    · cases h
  | admitHook req cutoff limits draw tie tombstoneTie =>
    cases h
    refine .quiet (admitHook_outbox ..) rfl fun e he => ?_
    unfold hookEvents at he
    split at he
    · rw [List.mem_singleton.mp he]
      rfl
    · cases he
  | invoke p i =>
    cases h
    exact outboxStep_invoke env production s p i
  | purgeStale cutoff =>
    cases h
    exact .quiet (purgeOrphanedTokenOwners_outbox ..) rfl (by simp)
  | purgeTombstones | purgeHooks | deleteInstallation | disableInstallation | disableIfTokenMatches | revoke =>
    cases h
    exact .quiet rfl rfl (by simp)

end requests

end Manifold.Push
