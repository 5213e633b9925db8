import Mathlib.Data.Finset.Max
import Mathlib.Data.Prod.Lex
import Mathlib.Data.Fintype.EquivFin
import Manifold.Push.OutboxTheorems

/-!
# Interrupted deliveries

The reset leaves the due time of a row alone, and a claim has set it as far ahead as the whole delivery deadline, so
that a delivery that a crash interrupts is not tried again in time.
-/

namespace Manifold.Push

open Lib

inductive Claims (env : Env) : Store → List Phase → Store → Prop where
  | nil (s : Store) : Claims env s [] s
  | cons {s t u : Store} {p : Phase} {ps : List Phase} {out : List Event} (pick claimId : String)
      (h : claimDue env s pick claimId = some (t, some p, out)) (hs : Claims env t ps u) : Claims env s (p :: ps) u

variable {env : Env} {s t : Store} {r : OutboxRow} {ps : List Phase}

theorem isNextDue_eq_some {now pick db} (h : isNextDue now pick db = some r) :
    r ∈ db.outbox ∧ r.outboxId = pick ∧ r.due now = true := by
  have hp := List.find?_some h
  simp only [Bool.and_eq_true, beq_iff_eq] at hp
  exact ⟨List.mem_of_find?_eq_some h, hp.1.1, hp.1.2⟩

theorem claimed_not_due (now : Int) (c : String) (r : OutboxRow) : (r.claimed now c).due now = false := by
  simp [OutboxRow.due, OutboxRow.claimed, inProgressLeaseSeconds]

structure Claimed (env : Env) (s t : Store) (r : OutboxRow) (c : String) (p : Phase) : Prop where
  mem : r ∈ s.db.outbox
  due : r.due s.clock = true
  phase : p = match rowToClaimed env c r with
    | some d => .delivering d
    | none => .corrupted r.outboxId c
  outbox : t.db.outbox = Table.update (fun r' => r'.outboxId == r.outboxId && r'.claimable s.clock)
    (·.claimed s.clock c) s.db.outbox
  clock : t.clock = s.clock

theorem claimDue_eq_some {pick c p out} (h : claimDue env s pick c = some (t, some p, out)) :
    ∃ r, Claimed env s t r c p := by
  unfold claimDue at h
  split at h
  · cases h
  obtain ⟨r, hr, h⟩ := Option.map_eq_some_iff.mp h
  cases h
  obtain ⟨hmem, -, hdue⟩ := isNextDue_eq_some hr
  exact ⟨r, hmem, hdue, rfl, rfl, rfl⟩

theorem Claimed.count {c p} (h : Claimed env s t r c p) :
    t.db.outbox.countP (·.due t.clock) < s.db.outbox.countP (·.due s.clock) := by
  have hclaimable : r.claimable s.clock = true := by
    have hdue := h.due
    simp only [OutboxRow.due, Bool.and_eq_true] at hdue
    exact hdue.1
  have hpos : 0 < s.db.outbox.countP (fun r' => (r'.outboxId == r.outboxId && r'.claimable s.clock) && r'.due s.clock) :=
    List.countP_pos_iff.mpr ⟨r, h.mem, by simp [hclaimable, h.due]⟩
  have hsplit := Table.countP_split (t := s.db.outbox) (q := (·.due s.clock))
    (p := fun r' => r'.outboxId == r.outboxId && r'.claimable s.clock)
  rw [h.outbox, h.clock, Table.countP_update_split, hsplit]
  simp only [claimed_not_due, Bool.and_false, List.countP_false, Function.const_apply]
  omega

theorem exists_claimDue (env : Env) (h : ∃ r ∈ s.db.outbox, r.due s.clock = true) :
    ∃ pick c t p out, claimDue env s pick c = some (t, some p, out) := by
  obtain ⟨r₀, hr₀, hdue₀⟩ := h
  obtain ⟨c, hc⟩ := Infinite.exists_notMem_finset s.issued.toFinset
  obtain ⟨r, hr, hmin⟩ := (s.db.outbox.filter (·.due s.clock)).toFinset.exists_min_image
    (fun r => toLex (r.nextAttemptAt, r.createdAt)) ⟨r₀, by simp [hr₀, hdue₀]⟩
  simp only [List.mem_toFinset, List.mem_filter] at hr hmin
  have hfirst : (s.db.outbox.filter (·.due s.clock)).all r.noLater = true := by
    refine List.all_eq_true.mpr fun r' hr' => ?_
    have hle := Prod.Lex.toLex_le_toLex.mp (hmin r' (List.mem_filter.mp hr'))
    simpa [OutboxRow.noLater] using hle
  have hnext : (isNextDue s.clock r.outboxId s.db).isSome = true :=
    List.find?_isSome.mpr ⟨r, hr.1, by simp only [hr.2, hfirst, beq_self_eq_true, Bool.and_self]⟩
  obtain ⟨r', hr'⟩ := Option.isSome_iff_exists.mp hnext
  have hfresh : c ∉ s.issued := by simpa using hc
  exact ⟨r.outboxId, c, _, _, _, by rw [claimDue, if_neg hfresh, hr']; rfl⟩

theorem exists_exhausted (env : Env) (s : Store) : ∃ ps t, Claims env s ps t ∧ ∀ r ∈ t.db.outbox, r.due t.clock = false := by
  induction hn : s.db.outbox.countP (·.due s.clock) using Nat.strong_induction_on generalizing s with
  | _ n ih =>
    by_cases hdue : ∃ r ∈ s.db.outbox, r.due s.clock = true
    · obtain ⟨pick, c, t, p, out, h⟩ := exists_claimDue env hdue
      obtain ⟨r, hc⟩ := claimDue_eq_some h
      obtain ⟨ps, u, hps, hend⟩ := ih _ (hn ▸ hc.count) t rfl
      exact ⟨p :: ps, u, .cons pick c h hps, hend⟩
    · exact ⟨[], s, .nil s, by simpa using hdue⟩

/-- A row that is not due is passed by. -/
theorem Claims.passes (h : Claims env s ps t) (hk : Table.Keyed (·.outboxId) s.db.outbox) (hr : r ∈ s.db.outbox)
    (hdue : r.due s.clock = false) : ∀ d, .delivering d ∈ ps → d.outboxId ≠ r.outboxId := by
  induction h with
  | nil => simp
  | cons pick c h _ ih =>
    obtain ⟨r₀, hc⟩ := claimDue_eq_some h
    have hne : r.outboxId ≠ r₀.outboxId := by
      intro he
      rw [hk.eq hr hc.mem he, hc.due] at hdue
      cases hdue
    have hkeep : r ∈ _ := hc.outbox ▸ Table.mem_update.mpr ⟨r, hr, by simp [hne]⟩
    intro d hd
    rcases List.mem_cons.mp hd with hd | hd
    · rw [hc.phase] at hd
      split at hd
      · rename_i d' hd'
        cases hd
        obtain ⟨n, -, rfl⟩ := Option.map_eq_some_iff.mp hd'
        exact hne.symm
      · cases hd
    · exact ih (hc.outbox ▸ hk.update fun _ _ => rfl) hkeep (hc.clock ▸ hdue) d hd

/-! ## Leases last until the deadline -/

theorem resume_clock {p x q out} (h : resume env s p x = some (t, q, out)) : t.clock = s.clock := by
  unfold resume at h
  split at h
  · unfold claimDue at h
    split at h
    · cases h
    · obtain ⟨r, -, h⟩ := Option.map_eq_some_iff.mp h
      cases h
      rfl
  · split at h <;> cases h
    rfl
  all_goals
    cases h
    try rfl

theorem clock_le_of_outside {production b out} (h : outside env production s b = some (t, out)) : s.clock ≤ t.clock := by
  cases b with
  | tick later =>
    simp only [outside] at h
    split at h <;> cases h
    assumption
  | admitInstallation =>
    simp only [outside] at h
    split at h <;> cases h
    exact Int.le_refl _
  | _ =>
    cases h
    exact Int.le_refl _

structure Leased (clock : Int) (r : OutboxRow) : Prop where
  created : r.createdAt ≤ clock
  lease : r.status = .inProgress → r.createdAt + deliveryResolutionDeadlineSeconds ≤ r.nextAttemptAt

theorem Moves.leased {p out} {r' : OutboxRow} (h : Moves s p out r r') (hold : Leased s.clock r) :
    Leased s.clock r' := by
  refine ⟨h.identity.2 ▸ hold.created, fun hp => ?_⟩
  cases h with
  | same => exact hold.lease hp
  | claim => exact Int.add_le_add_right hold.created _
  | rewrite quiet row => exact absurd hp row.claimId.1
  | replay => simp [OutboxRow.replayed] at hp

section runs

variable {production : Bool} {es : List (Service.Note Event)} {g : Server Store Phase}

theorem clock_le_of_step {a g' out} (h : (runs env production).step g a = some (g', out)) :
    g.shared.clock ≤ g'.shared.clock := by
  cases steps_of_runs h with
  | begin | drop => exact Int.le_refl _
  | resume number x p t q out hg hp hres => exact (resume_clock hres).ge
  | outside b t out hg hb => exact clock_le_of_outside hb

theorem rows_leased (h : (runs env production).Reaches es g) : ∀ r ∈ g.shared.db.outbox, Leased g.shared.clock r := by
  refine Machine.Reaches.induct (I := fun _ g => ∀ r ∈ g.shared.db.outbox, Leased g.shared.clock r) ?_ ?_ h
  · rintro g ⟨⟨hdb, -⟩, -⟩
    simp [hdb]
  intro es g a g' out hr hi hs r' hr'
  obtain ⟨p, hstep, -⟩ := outboxStep_of_step hs
  have hclock := clock_le_of_step hs
  rcases hstep.back (outbox_inv hr).shared.1 hr' with ⟨r, hr, hm, -⟩ | ⟨hpending, -, -, hcreated⟩
  · have hnow := hm.leased (hi r hr)
    exact ⟨hnow.created.trans hclock, hnow.lease⟩
  · exact ⟨hcreated.le.trans hclock, by simp [hpending]⟩

/-- What a restart is for: claims at the same clock that leave nothing to claim return the row. -/
def Retried (env : Env) (s : Store) (r : OutboxRow) : Prop :=
  ∀ ps t, Claims env (s.put (resetInProgress s.clock s.db)) ps t → (∀ r' ∈ t.db.outbox, r'.due t.clock = false) →
    ∃ d, .delivering d ∈ ps ∧ d.outboxId = r.outboxId

/-- Before its deadline no claim returns a row that was in progress at the reset, so that those are tried again only
where there are none. -/
theorem interrupted_deliveries_wait (h : (runs env production).Reaches es g) :
    (∀ r ∈ g.shared.db.outbox, r.status = .inProgress → r.beforeDeadline g.shared.clock = true →
      ∀ ps t, Claims env (g.shared.put (resetInProgress g.shared.clock g.shared.db)) ps t →
        ∀ d, .delivering d ∈ ps → d.outboxId ≠ r.outboxId) ∧
    ((∀ r ∈ g.shared.db.outbox, r.status = .inProgress → r.beforeDeadline g.shared.clock = true →
        Retried env g.shared r) ↔
      ∀ r ∈ g.shared.db.outbox, r.status = .inProgress → r.beforeDeadline g.shared.clock = false) := by
  have hk := (outbox_inv h).shared.1
  have never : ∀ r ∈ g.shared.db.outbox, r.status = .inProgress → r.beforeDeadline g.shared.clock = true →
      ∀ ps t, Claims env (g.shared.put (resetInProgress g.shared.clock g.shared.db)) ps t →
        ∀ d, .delivering d ∈ ps → d.outboxId ≠ r.outboxId := by
    intro r hr hp hbefore ps t hps
    have hlease := (rows_leased h r hr).lease hp
    rw [OutboxRow.beforeDeadline_iff] at hbefore
    refine hps.passes (r := r.reset g.shared.clock) (hk.update fun _ _ => rfl) ?_ ?_
    · exact Table.mem_update.mpr ⟨r, hr, by simp [hp]⟩
    · have hwait : ¬ r.nextAttemptAt ≤ g.shared.clock := by omega
      simp [OutboxRow.due, OutboxRow.reset, Store.put, hwait]
  refine ⟨never, fun hall r hr hp => ?_, fun hnone r hr hp hbefore => ?_⟩
  · by_contra hbefore
    have hbefore := Bool.eq_true_of_not_eq_false hbefore
    obtain ⟨ps, t, hps, hend⟩ := exists_exhausted env (g.shared.put (resetInProgress g.shared.clock g.shared.db))
    obtain ⟨d, hd, hid⟩ := hall r hr hp hbefore ps t hps hend
    exact never r hr hp hbefore ps t hps d hd hid
  · rw [hnone r hr hp] at hbefore
    cases hbefore

def interruptedRun : List (Turn Call Choice Outside) :=
  hookSetup none ++ [plainInvocation none "event" "row", plainInvocation none "later" "waiting", .begin .deliver,
    .resume 0 (.claim "row" "claim"), .outside (.tick 1299)]

/-- One delivery is interrupted and one still waits. -/
theorem interrupted_deliveries_wait_until_deadline :
    (plainRun interruptedRun).map (fun r =>
        r.1.shared.db.outbox.map (fun row => (row.outboxId, row.status, row.beforeDeadline r.1.shared.clock))) =
      some [("row", .inProgress, true), ("waiting", .pending, true)] ∧
    ∀ r ∈ plainRun interruptedRun, ∀ row ∈ r.1.shared.db.outbox,
      row.status = .inProgress → row.beforeDeadline r.1.shared.clock = true →
        ∀ ps t, Claims plainEnv (r.1.shared.put (resetInProgress r.1.shared.clock r.1.shared.db)) ps t →
          ∀ d, .delivering d ∈ ps → d.outboxId ≠ row.outboxId :=
  ⟨by decide +kernel, fun _ hr => (interrupted_deliveries_wait (plainRun_reaches hr)).1⟩

end runs

/-! ## A delivery accepted at 100 -/

def acceptedRow : OutboxRow :=
  { outboxId := "row", eventId := "event", recipientId := "alice", installationId := "phone", fcmToken := "token",
    platform := none, notificationJson := "", status := .pending, attempts := 0, nextAttemptAt := 100, createdAt := 100,
    updatedAt := 100 }

def interrupted (claimedAt clock : Int) : Store :=
  ⟨claimRow claimedAt "row" "claim" { outbox := [acceptedRow] }, clock, ["claim"]⟩

/-- Claimed at once and interrupted, the row is in progress until its deadline, and a reset leaves nothing to claim. -/
theorem interrupted_delivery_not_claimed :
    ∃ r ∈ (interrupted 100 399).db.outbox, r.status = .inProgress ∧ r.beforeDeadline 399 = true ∧
      (plainEnv.decode r.notificationJson).isSome = true ∧
      ∀ pick c, claimDue plainEnv
        ((interrupted 100 399).put (resetInProgress 399 (interrupted 100 399).db)) pick c = none := by
  refine ⟨acceptedRow.claimed 100 "claim", .head _, rfl, by decide, rfl, fun pick c => ?_⟩
  have hnone : isNextDue 399 pick (resetInProgress 399 (interrupted 100 399).db) = none := by
    simp [isNextDue, resetInProgress, interrupted, claimRow, acceptedRow, Table.update, OutboxRow.claimable,
      OutboxRow.due, OutboxRow.claimed, OutboxRow.reset, inProgressLeaseSeconds]
  simp only [interrupted] at hnone
  simp [claimDue, Store.put, interrupted, hnone]

end Manifold.Push
