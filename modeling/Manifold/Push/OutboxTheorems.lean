import Manifold.Push.Lemmas.Outbox

/-!
# Deliveries resolve once
-/

namespace Manifold.Push

open Lib

/-! ## The moves of a row -/

inductive Moves (s : Store) (p : Option Phase) (out : List Event) : OutboxRow → OutboxRow → Prop where
  | same {r : OutboxRow} (unclaimed : ∀ c, .claimed r.outboxId c ∉ out) : Moves s p out r r
  | claim {r : OutboxRow} {c : String} (call : p = some .claiming) (claimable : r.claimable s.clock = true)
      (fresh : c ∉ s.issued) (told : out = [.claimed r.outboxId c]) : Moves s p out r (r.claimed s.clock c)
  | rewrite {r r' : OutboxRow} (quiet : out = []) (row : RowStep s p r r') : Moves s p out r r'
  | replay {r : OutboxRow} {a : Admin} {now : Int} {ids : List String} (call : p = some (.applying a now ids))
      (command : a.replay = true) (mem : r.outboxId ∈ ids) (dead : r.status = .deadLetter)
      (before : r.beforeDeadline s.clock = true) (told : out = ids.map .replayed) : Moves s p out r (r.replayed now)

section moves

variable {s t : Store} {p : Option Phase} {out : List Event} {r r' : OutboxRow}

theorem OutboxRow.heldBy_iff {o c} {r : OutboxRow} :
    r.heldBy o c = true ↔ r.outboxId = o ∧ r.claimId = some c ∧ r.status = .inProgress := by
  simp [OutboxRow.heldBy, and_assoc]

theorem OutboxRow.beforeDeadline_iff {clock} {r : OutboxRow} :
    r.beforeDeadline clock = true ↔ clock < r.createdAt + deliveryResolutionDeadlineSeconds := by
  simp only [OutboxRow.beforeDeadline, decide_eq_true_eq]
  omega

theorem RowStep.active (h : RowStep s p r r') : r.status.active = true := by
  cases h with
  | expire active => exact active
  | reset held => simp [held, Status.active]
  | succeed held | fail held | invalid held | corrupt held =>
    rw [(OutboxRow.heldBy_iff.mp held).2.2]
    rfl

theorem RowStep.identity (h : RowStep s p r r') : r'.outboxId = r.outboxId ∧ r'.createdAt = r.createdAt := by
  cases h with
  | fail =>
    unfold OutboxRow.failed
    split <;> exact ⟨rfl, rfl⟩
  | _ => exact ⟨rfl, rfl⟩

theorem RowStep.attempts (h : RowStep s p r r') : r.attempts ≤ r'.attempts := by
  cases h with
  | fail =>
    unfold OutboxRow.failed
    split <;> simp [OutboxRow.attempted]
  | invalid | corrupt => simp [OutboxRow.attempted]
  | succeed | reset | expire => exact Int.le_refl _

theorem RowStep.before (h : RowStep s p r r') (hs : r'.status = .succeeded ∨ r'.status = .retrying) :
    s.clock < r'.createdAt + deliveryResolutionDeadlineSeconds := by
  cases h with
  | succeed held before => exact OutboxRow.beforeDeadline_iff.mp before
  | fail held =>
    unfold OutboxRow.failed at hs ⊢
    split at hs
    · simp [OutboxRow.attempted] at hs
    rename_i hlate
    rw [if_neg hlate]
    simp only [OutboxRow.attempted]
    omega
  | invalid | corrupt => simp [OutboxRow.attempted] at hs
  | reset => simp [OutboxRow.reset] at hs
  | expire => simp [OutboxRow.expired] at hs

theorem RowStep.claimId (h : RowStep s p r r') :
    r'.status ≠ .inProgress ∧ (r'.claimId = none ∨ r'.claimId = r.claimId ∧ r'.attempts = r.attempts) := by
  cases h with
  | reset => exact ⟨by simp [OutboxRow.reset], .inr ⟨rfl, rfl⟩⟩
  | succeed => exact ⟨by simp [OutboxRow.succeeded], .inl rfl⟩
  | expire => exact ⟨by simp [OutboxRow.expired], .inl rfl⟩
  | @fail o c now v reason r held =>
    unfold OutboxRow.failed Verdict.status
    cases v.retry <;> split <;> exact ⟨by simp [OutboxRow.attempted], .inl rfl⟩
  | invalid | corrupt => exact ⟨by simp [OutboxRow.attempted], .inl rfl⟩

theorem Moves.identity (h : Moves s p out r r') : r'.outboxId = r.outboxId ∧ r'.createdAt = r.createdAt := by
  cases h with
  | rewrite quiet row => exact row.identity
  | _ => exact ⟨rfl, rfl⟩

theorem Moves.attempts (h : Moves s p out r r') : r.attempts ≤ r'.attempts := by
  cases h with
  | rewrite quiet row => exact row.attempts
  | _ => exact Int.le_refl _

theorem Moves.final (h : Moves s p out r r') (hs : r.status = .succeeded ∨ r.status = .invalidToken) : r' = r := by
  cases h with
  | same => rfl
  | claim call claimable => rcases hs with hs | hs <;> simp [OutboxRow.claimable, hs] at claimable
  | rewrite quiet row =>
    have hactive := row.active
    rcases hs with hs | hs <;> simp [hs, Status.active] at hactive
  | replay call command mem dead => rcases hs with hs | hs <;> simp [hs] at dead

theorem Moves.claimId (h : Moves s p out r r') {c} (hc : r'.claimId = some c) (hold : c ∈ s.issued) :
    r.claimId = some c ∧ r'.attempts = r.attempts := by
  cases h with
  | same => exact ⟨hc, rfl⟩
  | claim call claimable fresh =>
    simp only [OutboxRow.claimed, Option.some.injEq] at hc
    exact absurd (hc ▸ hold) fresh
  | rewrite quiet row =>
    rcases row.claimId.2 with hnone | ⟨hsame, hatt⟩
    · rw [hnone] at hc
      cases hc
    · exact ⟨hsame ▸ hc, hatt⟩
  | replay => simp [OutboxRow.replayed] at hc

theorem Moves.marked {q o c} (h : Moves s (some q) out r r') (hm : q.mark = some (o, c)) (hne : r' ≠ r) :
    r.outboxId = o ∧ r.claimId = some c ∧ r.status = .inProgress := by
  cases h with
  | same => exact absurd rfl hne
  | claim call => cases call; cases hm
  | rewrite quiet row =>
    cases row with
    | succeed held | fail held | invalid held | corrupt held =>
      cases hm
      exact OutboxRow.heldBy_iff.mp held
  | replay call => cases call; cases hm

theorem Moves.dead (h : Moves s p out r r') (hd : r.status = .deadLetter) (hne : r' ≠ r) :
    ∃ a now ids, p = some (.applying a now ids) ∧ a.replay = true ∧ r.outboxId ∈ ids ∧
      s.clock < r.createdAt + deliveryResolutionDeadlineSeconds ∧ r' = r.replayed now := by
  cases h with
  | same => exact absurd rfl hne
  | claim call claimable => simp [OutboxRow.claimable, hd] at claimable
  | rewrite quiet row =>
    have hactive := row.active
    simp [hd, Status.active] at hactive
  | @replay a now ids call command mem dead before told =>
    exact ⟨a, now, ids, call, command, mem, OutboxRow.beforeDeadline_iff.mp before, rfl⟩

theorem Moves.before
    (h : Moves s p out r r') (hne : r' ≠ r) (hs : r'.status = .succeeded ∨ r'.status = .retrying) :
    s.clock < r'.createdAt + deliveryResolutionDeadlineSeconds := by
  cases h with
  | same => exact absurd rfl hne
  | claim => simp [OutboxRow.claimed] at hs
  | rewrite quiet row => exact row.before hs
  | replay => simp [OutboxRow.replayed] at hs

/-! ## The table -/

variable (hk : Table.Keyed (·.outboxId) s.db.outbox)

/-- Of the rows before a step those of `keep` move by `g`, and the rows of `new` are inserted. -/
structure RowsMove (s : Store) (p : Option Phase) (t : Store) (out : List Event) (keep : OutboxRow → Bool)
    (g : OutboxRow → OutboxRow) (new : List OutboxRow) : Prop where
  rows : t.db.outbox = (s.db.outbox.filter keep).map g ++ new
  kept : ∀ r ∈ s.db.outbox, keep r = true → Moves s p out r (g r) ∧ .inserted r.outboxId ∉ out
  gone : ∀ r ∈ s.db.outbox, keep r = false → r.status.terminal = true ∧ .deleted r.outboxId ∈ out
  fresh : ∀ r ∈ new, r.status = .pending ∧ r.attempts = 0 ∧ r.claimId = none ∧ r.createdAt = s.clock

theorem RowsMove.of_map {g} (rows : t.db.outbox = s.db.outbox.map g)
    (h : ∀ r ∈ s.db.outbox, Moves s p out r (g r) ∧ .inserted r.outboxId ∉ out) :
    RowsMove s p t out (fun _ => true) g [] where
  rows := by simpa using rows
  kept r hr _ := h r hr
  gone _ _ hk := nomatch hk
  fresh _ hr := nomatch hr

theorem Event.ne_of_onHook {e e' : Event} (h : e.onHook = true) (h' : e'.onHook = false) : e' ≠ e := by
  rintro rfl
  rw [h] at h'
  cases h'

include hk in
theorem OutboxStep.rowsMove (h : OutboxStep s p t out) : ∃ keep g new, RowsMove s p t out keep g new := by
  cases h with
  | quiet outbox issued hooks =>
    refine ⟨_, id, _, .of_map (by simp [outbox]) fun r _ => ⟨.same fun c hc => ?_, fun hi => ?_⟩⟩
    · cases hooks _ hc
    · cases hooks _ hi
  | @claim r₀ c _ mem claimable fresh outbox issued =>
    refine ⟨_, _, _, .of_map outbox fun r hr => ⟨?_, by simp⟩⟩
    split
    · rename_i hg
      simp only [Bool.and_eq_true, beq_iff_eq] at hg
      exact .claim rfl hg.2 fresh (by rw [hg.1])
    rename_i hg
    refine .same fun c' hc' => hg ?_
    -- a row with the id of the claimed one is the claimed one
    simp only [List.mem_singleton, Event.claimed.injEq] at hc'
    have hsame : r = r₀ := hk.eq hr mem hc'.1
    simp [hsame, claimable]
  | rewrite outbox row issued =>
    refine ⟨_, _, _, .of_map outbox fun r _ => ⟨?_, by simp⟩⟩
    split
    · exact .rewrite rfl (row r ‹_›)
    · exact .same (by simp)
  | replay command outbox row issued =>
    refine ⟨_, _, _, .of_map outbox fun r _ => ⟨?_, by simp⟩⟩
    rcases row r with hsame | ⟨mem, dead, before, hg⟩
    · rw [hsame]
      exact .same (by simp)
    · rw [hg]
      exact .replay rfl command mem dead before rfl
  | @remove _ _ keep unmarked outbox row issued =>
    refine ⟨keep, id, [], by simp [outbox], fun r _ _ => ⟨.same (by simp [lostRows]), by simp [lostRows]⟩,
      fun r hr hkeep => ⟨row r hkeep, ?_⟩, by simp⟩
    simp only [lostRows, List.mem_map, List.mem_filter]
    refine ⟨r, ⟨hr, ?_⟩, rfl⟩
    simp only [Bool.not_eq_true', List.any_eq_false, beq_iff_eq, outbox, List.mem_filter]
    rintro r' ⟨hr', hkeep'⟩ hid
    rw [hk.eq hr' hr hid, hkeep] at hkeep'
    cases hkeep'
  | @insert r₀ e _ hook pending attempts unclaimed created fresh outbox issued =>
    refine ⟨fun _ => true, id, [r₀], by simp [outbox], fun r hr _ => ⟨.same fun c => ?_, ?_⟩, by simp,
      by simp [pending, attempts, unclaimed, created]⟩
    · simpa using Event.ne_of_onHook hook rfl
    · simpa using ⟨fresh r hr, Event.ne_of_onHook hook rfl⟩

include hk in
theorem OutboxStep.back (h : OutboxStep s p t out) (hr' : r' ∈ t.db.outbox) :
    (∃ r ∈ s.db.outbox, Moves s p out r r' ∧ .inserted r.outboxId ∉ out) ∨
      r'.status = .pending ∧ r'.attempts = 0 ∧ r'.claimId = none ∧ r'.createdAt = s.clock := by
  obtain ⟨keep, g, new, hm⟩ := h.rowsMove hk
  rw [hm.rows, List.mem_append] at hr'
  rcases hr' with hr' | hr'
  · obtain ⟨r, hr, rfl⟩ := List.mem_map.mp hr'
    obtain ⟨hr, hkeep⟩ := List.mem_filter.mp hr
    exact .inl ⟨r, hr, hm.kept r hr hkeep⟩
  · exact .inr (hm.fresh r' hr')

include hk in
theorem OutboxStep.forth (h : OutboxStep s p t out) (hr : r ∈ s.db.outbox) :
    (∃ r' ∈ t.db.outbox, Moves s p out r r') ∨ r.status.terminal = true ∧ .deleted r.outboxId ∈ out := by
  obtain ⟨keep, g, new, hm⟩ := h.rowsMove hk
  cases hkeep : keep r with
  | true =>
    refine .inl ⟨g r, ?_, (hm.kept r hr hkeep).1⟩
    rw [hm.rows]
    exact List.mem_append_left _ (List.mem_map_of_mem (List.mem_filter.mpr ⟨hr, hkeep⟩))
  | false => exact .inr (hm.gone r hr hkeep)

include hk in
theorem OutboxStep.keyed (h : OutboxStep s p t out) : Table.Keyed (·.outboxId) t.db.outbox := by
  cases h with
  | quiet outbox => exact outbox ▸ hk
  | claim mem claimable fresh outbox => exact outbox ▸ hk.update fun r _ => rfl
  | rewrite outbox row => exact outbox ▸ hk.update fun r hr => (row r hr).identity.1
  | @replay a now ids _ g command outbox row =>
    unfold Table.Keyed at hk ⊢
    rw [outbox, List.map_map]
    convert hk using 1
    refine List.map_congr_left fun r _ => ?_
    rcases row r with hsame | ⟨-, -, -, hg⟩
    · simp [hsame]
    · simp [hg, OutboxRow.replayed]
  | remove unmarked outbox => exact outbox ▸ hk.filter
  | insert hook pending attempts unclaimed created fresh outbox => exact outbox ▸ hk.append fresh

theorem OutboxStep.issued (h : OutboxStep s p t out) : s.issued ⊆ t.issued := by
  cases h with
  | claim mem claimable fresh outbox issued => simp [issued]
  | quiet outbox issued | rewrite outbox row issued | replay command outbox row issued | remove unmarked outbox row issued
  | insert hook pending attempts unclaimed created fresh outbox issued => simp [issued]

theorem OutboxStep.told (h : OutboxStep s p t out) {o c} (hc : .claimed o c ∈ out) : c ∈ t.issued := by
  cases h with
  | claim mem claimable fresh outbox issued =>
    simp only [List.mem_singleton, Event.claimed.injEq] at hc
    simp [issued, hc.2]
  | quiet outbox issued hooks => cases hooks _ hc
  | rewrite => cases hc
  | replay => simp at hc
  | remove => simp [lostRows] at hc
  | insert hook => exact absurd (by simpa using hc) (Event.ne_of_onHook hook rfl)

theorem OutboxStep.deleted (h : OutboxStep s p t out) {o} (hd : .deleted o ∈ out) {q} (hq : p = some q) :
    q.mark = none := by
  cases h with
  | remove unmarked => exact unmarked q hq
  | quiet outbox issued hooks => cases hooks _ hd
  | claim => simp at hd
  | rewrite => cases hd
  | replay => simp at hd
  | insert hook => exact absurd (by simpa using hd) (Event.ne_of_onHook hook rfl)

end moves

/-! ## The invariant -/

structure RowOk (es : List Event) (issued : List String) (r : OutboxRow) : Prop where
  latest : ∀ c, r.claimId = some c → latestClaim r.outboxId es = some c
  held : r.status = .inProgress → r.claimId.isSome = true
  drawn : ∀ c, r.claimId = some c → c ∈ issued
  attempts : ¬ WasReplayed r.outboxId es →
    r.attempts ≤ maxDeliveryAttempts ∧ (r.status.active = true → r.attempts < maxDeliveryAttempts)

def Phase.claim : Phase → Option String
  | .delivering d | .succeeding d | .invalidating d _ | .failing d _ => some d.claimId
  | .corrupted _ c | .marking _ c _ _ _ => some c
  | _ => none

structure PhaseOk (s : Store) (p : Phase) : Prop where
  drawn : ∀ c, p.claim = some c → c ∈ s.issued
  /-- A call that will mark its row as retrying has seen that an attempt is left. -/
  verdict : ∀ o c now v reason, p = .marking o c now v reason → v.retry = true →
    ∀ r ∈ s.db.outbox, r.outboxId = o → r.claimId = some c → r.attempts + 1 < maxDeliveryAttempts

section invariant

variable {s t : Store} {p : Option Phase} {es out : List Event} {r r' : OutboxRow}

theorem RowStep.attempts_le (h : RowStep s p r r') (hr : r ∈ s.db.outbox) (hp : ∀ q, p = some q → PhaseOk s q)
    (hlt : r.attempts < maxDeliveryAttempts) :
    r'.attempts ≤ maxDeliveryAttempts ∧ (r'.status.active = true → r'.attempts < maxDeliveryAttempts) := by
  cases h with
  | succeed | expire => exact ⟨Int.le_of_lt hlt, fun h => by cases h⟩
  | reset => exact ⟨Int.le_of_lt hlt, fun _ => hlt⟩
  | invalid | corrupt => exact ⟨Int.add_one_le_of_lt hlt, fun h => by cases h⟩
  | @fail o c now v reason r held =>
    obtain ⟨hid, hc, -⟩ := OutboxRow.heldBy_iff.mp held
    have hverdict := (hp _ rfl).verdict o c now v reason rfl
    unfold OutboxRow.failed Verdict.status
    split
    · exact ⟨Int.add_one_le_of_lt hlt, fun h => by cases h⟩
    refine ⟨Int.add_one_le_of_lt hlt, fun hactive => ?_⟩
    cases hv : v.retry with
    | false => simp [OutboxRow.attempted, hv, Status.active] at hactive
    | true => exact hverdict hv r hr hid hc

theorem OutboxRow.active_of_claimable {now} (h : r.claimable now = true) : r.status.active = true := by
  simp only [OutboxRow.claimable, Bool.or_eq_true, Bool.and_eq_true, beq_iff_eq] at h
  rcases h with (h | h) | ⟨h, -⟩ <;> simp [h, Status.active]

theorem Moves.rowOk (h : Moves s p out r r') (hr : r ∈ s.db.outbox) (hold : .inserted r.outboxId ∉ out)
    (hstep : OutboxStep s p t out) (hp : ∀ q, p = some q → PhaseOk s q) (hok : RowOk es s.issued r) :
    RowOk (es ++ out) t.issued r' := by
  have hunplayed : ¬ WasReplayed r.outboxId (es ++ out) → ¬ WasReplayed r.outboxId es :=
    fun hn hw => hn (hw.append hold)
  cases h with
  | same unclaimed =>
    refine ⟨fun c hc => ?_, hok.held, fun c hc => hstep.issued (hok.drawn c hc), fun hn => hok.attempts (hunplayed hn)⟩
    rw [latestClaim_append hold unclaimed]
    exact hok.latest c hc
  | @claim c call claimable fresh told =>
    have hactive := OutboxRow.active_of_claimable claimable
    refine ⟨fun c' hc' => ?_, fun _ => rfl, fun c' hc' => ?_, fun hn => ?_⟩
    · rw [told]
      exact (latestClaim_claimed c).trans hc'
    · exact hstep.told (o := r.outboxId) (by rw [told]; simpa [OutboxRow.claimed, eq_comm] using hc')
    · have hlt := (hok.attempts (hunplayed hn)).2 hactive
      exact ⟨Int.le_of_lt hlt, fun _ => hlt⟩
  | rewrite quiet row =>
    subst quiet
    obtain ⟨hnot, hclaim⟩ := row.claimId
    have hkept : ∀ c, r'.claimId = some c → r.claimId = some c := fun c hc => by
      rcases hclaim with hnone | ⟨hsame, -⟩
      · rw [hnone] at hc
        cases hc
      · exact hsame ▸ hc
    rw [List.append_nil] at hunplayed ⊢
    refine ⟨fun c hc => row.identity.1 ▸ hok.latest c (hkept c hc), fun h => absurd h hnot,
      fun c hc => hstep.issued (hok.drawn c (hkept c hc)), fun hn => ?_⟩
    rw [row.identity.1] at hn
    exact row.attempts_le hr hp ((hok.attempts hn).2 row.active)
  | replay call command mem dead before told =>
    refine ⟨by simp [OutboxRow.replayed], by simp [OutboxRow.replayed], by simp [OutboxRow.replayed], fun hn => ?_⟩
    refine absurd (wasReplayed_of_mem hold ?_) hn
    rw [told]
    exact List.mem_map_of_mem mem

theorem rowOk_new {clock} (es : List Event) (issued : List String)
    (h : r.status = .pending ∧ r.attempts = 0 ∧ r.claimId = none ∧ r.createdAt = clock) : RowOk es issued r := by
  obtain ⟨hstatus, hattempts, hclaim, -⟩ := h
  refine ⟨by simp [hclaim], by simp [hstatus], by simp [hclaim], fun _ => ?_⟩
  simp [hattempts, maxDeliveryAttempts]

theorem PhaseOk.kept {q} (hq : PhaseOk s q) (hk : Table.Keyed (·.outboxId) s.db.outbox)
    (hstep : OutboxStep s p t out) : PhaseOk t q := by
  refine ⟨fun c hc => hstep.issued (hq.drawn c hc), ?_⟩
  rintro o c now v reason rfl hv r' hr' hid hc
  rcases hstep.back hk hr' with ⟨r, hr, hm, -⟩ | ⟨-, -, hnone, -⟩
  · obtain ⟨hc', hatt⟩ := hm.claimId hc (hq.drawn c rfl)
    rw [hatt]
    exact hq.verdict o c now v reason rfl hv r hr (hm.identity.1.symm.trans hid) hc'
  · rw [hnone] at hc
    cases hc

theorem phaseOk_of_claim_none {q} (h : q.claim = none) : PhaseOk s q := by
  refine ⟨by simp [h], ?_⟩
  rintro o c now v reason rfl
  cases h

theorem phaseOk_of_claim {q} (hc : ∀ c, q.claim = some c → c ∈ s.issued)
    (hm : ∀ o c now v reason, q = .marking o c now v reason → v.retry = false) : PhaseOk s q := by
  refine ⟨hc, ?_⟩
  intro o c now v reason he hv
  rw [hm o c now v reason he] at hv
  cases hv

theorem chooseVerdict_ok {d f q} (hk : Table.Keyed (·.outboxId) s.db.outbox) (hd : d.claimId ∈ s.issued)
    (h : chooseVerdict s d f = some q) : PhaseOk s q := by
  unfold chooseVerdict at h
  split at h
  · cases h
    refine phaseOk_of_claim (fun c hc => ?_) fun o c now v reason he => ?_
    · cases hc
      exact hd
    · cases he
      rfl
  obtain ⟨r₀, hr₀, rfl⟩ := Option.map_eq_some_iff.mp h
  refine ⟨fun c hc => ?_, fun o c now v reason he hv r hr hid hc => ?_⟩
  · cases hc
    exact hd
  cases he
  obtain ⟨hmem, hid₀⟩ := Table.lookup_mem hr₀
  -- the row whose attempts were read is the one that carries the claim
  have hsame : r = r₀ := hk.eq hr hmem (hid.trans hid₀.symm)
  unfold Verdict.transient at hv
  split at hv
  · cases hv
  · rw [hsame]
    omega

theorem claimDue_ok {env pick c q} (h : claimDue env s pick c = some (t, some q, out)) : PhaseOk t q := by
  unfold claimDue at h
  split at h
  · cases h
  obtain ⟨r, hr, h⟩ := Option.map_eq_some_iff.mp h
  cases h
  split
  · rename_i d hd
    obtain ⟨n, -, rfl⟩ := Option.map_eq_some_iff.mp hd
    refine phaseOk_of_claim (fun c' hc' => ?_) fun o c now v reason he => by cases he
    cases hc'
    simp
  · refine phaseOk_of_claim (fun c' hc' => ?_) fun o c now v reason he => by cases he
    cases hc'
    simp

theorem resume_ok {env q q' x} (hk : Table.Keyed (·.outboxId) s.db.outbox)
    (h : resume env s q x = some (t, some q', out)) (hq : PhaseOk s q) : PhaseOk t q' := by
  unfold resume at h
  split at h
  · exact claimDue_ok h
  · split at h <;> cases h
  · rename_i d a
    cases h
    refine phaseOk_of_claim (fun c hc => hq.drawn c ?_) fun o c now v reason he => ?_
    · cases a <;> exact hc
    · cases a <;> cases he
  · cases h
  · cases h
  · cases h
  · simp only [Option.some.injEq, Prod.mk.injEq] at h
    obtain ⟨rfl, h, -⟩ := h
    exact chooseVerdict_ok hk (hq.drawn _ rfl) h
  · cases h
  · cases h
    refine phaseOk_of_claim_none ?_
    unfold selectNext
    split
    · rfl
    · split <;> rfl
  · cases h
  · cases h

end invariant

/-! ## Runs -/

section runs

variable {env : Env} {production : Bool} {es : List (Service.Note Event)} {s : Server Store Phase}

theorem outbox_inv (h : (runs env production).Reaches es s) :
    Service.Inv (fun es (st : Store) => Table.Keyed (·.outboxId) st.db.outbox ∧
        ∀ r ∈ st.db.outbox, RowOk (log es) st.issued r)
      (fun _ st _ p => PhaseOk st p) es s := by
  refine Service.Reaches.calls ?_ ?_ ?_ ?_ h
  · rintro st ⟨hdb, -⟩
    simp [hdb, Table.Keyed]
  · intro es s call p hr hi hg hp
    cases call with
    | deliver =>
      cases hp
      exact phaseOk_of_claim_none rfl
    | admin a =>
      obtain ⟨-, -, rfl⟩ := Option.map_eq_some_iff.mp hp
      exact phaseOk_of_claim_none rfl
  · intro es s number x p t q out hr hi hg hp hres
    have hstep := outboxStep_of_resume hres
    have hk := hi.shared.1
    refine ⟨⟨hstep.keyed hk, fun r' hr' => ?_⟩, fun p' hp' => ?_, fun c hc hne => (hi.calls c hc).kept hk hstep⟩
    · rw [log_append, log_map]
      rcases hstep.back hk hr' with ⟨r, hmem, hm, hold⟩ | hnew
      · refine hm.rowOk hmem hold hstep (fun q hq => ?_) (hi.shared.2 r hmem)
        cases hq
        exact hi.calls _ hp
      · exact rowOk_new _ _ hnew
    · subst hp'
      exact resume_ok hk hres (hi.calls _ hp)
  intro es s b t out hr hi hg hb
  have hstep := outboxStep_of_outside hb
  have hk := hi.shared.1
  refine ⟨⟨hstep.keyed hk, fun r' hr' => ?_⟩, fun _ c hc => (hi.calls c hc).kept hk hstep⟩
  rw [log_append, log_map]
  rcases hstep.back hk hr' with ⟨r, hmem, hm, hold⟩ | hnew
  · exact hm.rowOk hmem hold hstep (fun q hq => by cases hq) (hi.shared.2 r hmem)
  · exact rowOk_new _ _ hnew

theorem outboxStep_of_step {a t out} (h : (runs env production).step s a = some (t, out)) :
    ∃ p, OutboxStep s.shared p t.shared (log out) ∧
      ∀ q, p = some q → ∃ number x, a = .resume number x ∧ (number, q) ∈ s.calls := by
  cases steps_of_runs h with
  | begin | drop => exact ⟨none, .quiet rfl rfl (by simp [log]), by simp⟩
  | resume number x p t q out hg hp hres =>
    refine ⟨some p, ?_, fun q' hq' => ⟨number, x, rfl, ?_⟩⟩
    · rw [log_map]
      exact outboxStep_of_resume hres
    · cases hq'
      exact hp
  | outside b t out hg hb =>
    refine ⟨none, ?_, by simp⟩
    rw [log_map]
    exact outboxStep_of_outside hb

theorem resumed_phase {t out number x q} (hr : (runs env production).Reaches es s)
    (h : (runs env production).step s (.resume number x) = some (t, out)) (hq : (number, q) ∈ s.calls) :
    ∃ q' os, resume env s.shared q x = some (t.shared, q', os) ∧ log out = os := by
  cases steps_of_runs h with
  | resume number x p t q' os hg hp hres =>
    rw [(Prod.mk.inj ((outbox_inv hr).keyed.eq hq hp rfl)).2]
    exact ⟨q', os, hres, log_map _ _⟩

theorem run_row {fs t r} (hr : (runs env production).Reaches es s) (h : (runs env production).Run s fs t)
    (hmem : r ∈ s.shared.db.outbox) (hkept : .deleted r.outboxId ∉ log fs) :
    ∃ r' ∈ t.shared.db.outbox, r'.outboxId = r.outboxId ∧ r.attempts ≤ r'.attempts ∧
      (r.status = .succeeded ∨ r.status = .invalidToken → r' = r) := by
  induction h with
  | nil => exact ⟨r, hmem, rfl, Int.le_refl _, fun _ => rfl⟩
  | @snoc t u fs out a hrun hs ih =>
    rw [log_append, List.mem_append, not_or] at hkept
    obtain ⟨r₁, hr₁, hid, hatt, hfinal⟩ := ih hkept.1
    obtain ⟨p, hstep, -⟩ := outboxStep_of_step hs
    rcases hstep.forth (outbox_inv (hr.run hrun)).shared.1 hr₁ with ⟨r', hr', hm⟩ | ⟨-, hdel⟩
    · refine ⟨r', hr', hm.identity.1.trans hid, Int.le_trans hatt hm.attempts, fun hf => ?_⟩
      have hsame := hfinal hf
      exact (hm.final (hsame ▸ hf)).trans hsame
    · exact absurd (hid ▸ hdel) hkept.2

theorem markInvalid_registrations {now d reason db reg} (hreg : reg ∈ db.registrations)
    (hgone : reg ∉ (markInvalidTokenAndDisableRegistration now d reason db).registrations) :
    reg.recipientId = d.registration.recipientId ∧ reg.installationId = d.registration.installationId ∧
      reg.fcmToken = d.registration.fcmToken := by
  unfold markInvalidTokenAndDisableRegistration at hgone
  split at hgone
  · by_contra hother
    refine hgone (Table.mem_update.mpr ⟨reg, hreg, ?_⟩)
    rw [if_neg]
    simpa [and_assoc] using hother
  · exact absurd hreg hgone

section step

variable {a : Turn Call Choice Outside} {t : Server Store Phase} {out : List (Service.Note Event)}
  (h : (runs env production).Reaches es s) (hs : (runs env production).step s a = some (t, out))

include h hs

theorem mark_needs_latest_claim {number x q o c} (ha : a = .resume number x) (hq : (number, q) ∈ s.calls)
    (hmark : q.mark = some (o, c)) {r} (hr : r ∈ s.shared.db.outbox) (hgone : r ∉ t.shared.db.outbox) :
    r.outboxId = o ∧ r.status = .inProgress ∧ latestClaim o (log es) = some c := by
  subst ha
  have hinv := outbox_inv h
  obtain ⟨q', os, hres, hos⟩ := resumed_phase h hs hq
  have hstep := outboxStep_of_resume hres
  rcases hstep.forth hinv.shared.1 hr with ⟨r', hr', hm⟩ | ⟨-, hdel⟩
  · obtain ⟨hid, hc, hprog⟩ := hm.marked hmark fun he => hgone (he ▸ hr')
    exact ⟨hid, hprog, hid ▸ (hinv.shared.2 r hr).latest c hc⟩
  · rw [hstep.deleted hdel rfl] at hmark
    cases hmark

theorem dead_letter_returns {r} (hr : r ∈ s.shared.db.outbox) (hdead : r.status = .deadLetter)
    (hgone : r ∉ t.shared.db.outbox) :
    .deleted r.outboxId ∈ log out ∨
      ∃ number x command now ids, a = .resume number x ∧ (number, .applying command now ids) ∈ s.calls ∧
        command.replay = true ∧ r.outboxId ∈ ids ∧
        s.shared.clock < r.createdAt + deliveryResolutionDeadlineSeconds ∧ r.replayed now ∈ t.shared.db.outbox := by
  obtain ⟨p, hstep, hcall⟩ := outboxStep_of_step hs
  rcases hstep.forth (outbox_inv h).shared.1 hr with ⟨r', hr', hm⟩ | ⟨-, hdel⟩
  · obtain ⟨command, now, ids, rfl, hreplay, hid, hbefore, rfl⟩ := hm.dead hdead fun he => hgone (he ▸ hr')
    obtain ⟨number, x, ha, hc⟩ := hcall _ rfl
    exact .inr ⟨number, x, command, now, ids, ha, hc, hreplay, hid, hbefore, hr'⟩
  · exact .inl hdel

theorem resolved_before_deadline {r} (hr : r ∈ t.shared.db.outbox) (hnew : r ∉ s.shared.db.outbox)
    (hstatus : r.status = .succeeded ∨ r.status = .retrying) :
    s.shared.clock < r.createdAt + deliveryResolutionDeadlineSeconds := by
  obtain ⟨p, hstep, -⟩ := outboxStep_of_step hs
  rcases hstep.back (outbox_inv h).shared.1 hr with ⟨r₀, hr₀, hm, -⟩ | ⟨hpending, -, -⟩
  · exact hm.before (fun he => hnew (he ▸ hr₀)) hstatus
  · simp [hpending] at hstatus

theorem deleted_terminal {r} (hr : r ∈ s.shared.db.outbox)
    (hgone : ∀ r' ∈ t.shared.db.outbox, r'.outboxId ≠ r.outboxId) : r.status.terminal = true := by
  obtain ⟨p, hstep, -⟩ := outboxStep_of_step hs
  rcases hstep.forth (outbox_inv h).shared.1 hr with ⟨r', hr', hm⟩ | ⟨hterminal, -⟩
  · exact absurd hm.identity.1 (hgone r' hr')
  · exact hterminal

theorem invalid_token_disables {number x d reason} (ha : a = .resume number x)
    (hq : (number, .invalidating d reason) ∈ s.calls) {reg} (hreg : reg ∈ s.shared.db.registrations)
    (hgone : reg ∉ t.shared.db.registrations) :
    reg.recipientId = d.registration.recipientId ∧ reg.installationId = d.registration.installationId ∧
      reg.fcmToken = d.registration.fcmToken := by
  subst ha
  obtain ⟨q', os, hres, -⟩ := resumed_phase h hs hq
  cases x with
  | go =>
    simp only [resume, Option.some.injEq, Prod.mk.injEq] at hres
    rw [← hres.1] at hgone
    exact markInvalid_registrations hreg hgone
  | _ => cases hres

end step

theorem deliveries_resolve_once (h : (runs env production).Reaches es s) :
    (∀ a t out, (runs env production).step s a = some (t, out) →
      -- a mark changes a row only if its claim is the latest one and the row is in progress
      (∀ number x p o c, a = .resume number x → (number, p) ∈ s.calls → p.mark = some (o, c) →
        ∀ r ∈ s.shared.db.outbox, r ∉ t.shared.db.outbox →
          r.outboxId = o ∧ r.status = .inProgress ∧ latestClaim o (log es) = some c) ∧
      -- a dead letter is deleted, or an operator replays it before its deadline
      (∀ r ∈ s.shared.db.outbox, r.status = .deadLetter → r ∉ t.shared.db.outbox → .deleted r.outboxId ∈ log out ∨
        ∃ number x command now ids, a = .resume number x ∧ (number, .applying command now ids) ∈ s.calls ∧
          command.replay = true ∧ r.outboxId ∈ ids ∧
          s.shared.clock < r.createdAt + deliveryResolutionDeadlineSeconds ∧ r.replayed now ∈ t.shared.db.outbox) ∧
      -- no row becomes succeeded or retrying at its deadline or after it
      (∀ r ∈ t.shared.db.outbox, r ∉ s.shared.db.outbox → r.status = .succeeded ∨ r.status = .retrying →
        s.shared.clock < r.createdAt + deliveryResolutionDeadlineSeconds) ∧
      -- only a terminal row is deleted
      (∀ r ∈ s.shared.db.outbox, (∀ r' ∈ t.shared.db.outbox, r'.outboxId ≠ r.outboxId) → r.status.terminal = true) ∧
      -- a mark of an invalid token disables only a registration with the token that was sent
      (∀ number x d reason, a = .resume number x → (number, .invalidating d reason) ∈ s.calls →
        ∀ reg ∈ s.shared.db.registrations, reg ∉ t.shared.db.registrations →
          reg.recipientId = d.registration.recipientId ∧ reg.installationId = d.registration.installationId ∧
            reg.fcmToken = d.registration.fcmToken)) ∧
    (∀ fs t, (runs env production).Run s fs t → ∀ r ∈ s.shared.db.outbox, .deleted r.outboxId ∉ log fs →
      -- a delivery that succeeded, or whose token was invalid, never changes again
      (r.status = .succeeded ∨ r.status = .invalidToken → r ∈ t.shared.db.outbox) ∧
      -- the attempts never decrease
      ∀ r' ∈ t.shared.db.outbox, r'.outboxId = r.outboxId → r.attempts ≤ r'.attempts) ∧
    -- without a replay the attempts stay within the maximum
    ∀ r ∈ s.shared.db.outbox, ¬ WasReplayed r.outboxId (log es) → r.attempts ≤ maxDeliveryAttempts := by
  have hinv := outbox_inv h
  refine ⟨fun a t out hs => ⟨?_, ?_, ?_, ?_, ?_⟩, fun fs t hrun r hr hkept => ?_,
    fun r hr hn => ((hinv.shared.2 r hr).attempts hn).1⟩
  · intro number x p o c ha hp hmark r hr hgone
    exact mark_needs_latest_claim h hs ha hp hmark hr hgone
  · intro r hr hdead hgone
    exact dead_letter_returns h hs hr hdead hgone
  · intro r hr hnew hstatus
    exact resolved_before_deadline h hs hr hnew hstatus
  · intro r hr hgone
    exact deleted_terminal h hs hr hgone
  · intro number x d reason ha hq reg hreg hgone
    exact invalid_token_disables h hs ha hq hreg hgone
  obtain ⟨r₁, hr₁, hid, hatt, hfinal⟩ := run_row h hrun hr hkept
  refine ⟨fun hf => hfinal hf ▸ hr₁, fun r' hr' hid' => ?_⟩
  have hsame : r' = r₁ := (outbox_inv (h.run hrun)).shared.1.eq hr' hr₁ (hid'.trans hid.symm)
  exact hsame ▸ hatt

/-- A row in progress carries its latest claim, and an active one that was never replayed has an attempt left. -/
theorem active_rows_accounted (h : (runs env production).Reaches es s) :
    (∀ r ∈ s.shared.db.outbox, r.status = .inProgress →
      ∃ c ∈ s.shared.issued, r.claimId = some c ∧ latestClaim r.outboxId (log es) = some c) ∧
    ∀ r ∈ s.shared.db.outbox, r.status.active = true → ¬ WasReplayed r.outboxId (log es) →
      r.attempts < maxDeliveryAttempts := by
  refine ⟨fun r hr hp => ?_, fun r hr ha hn => (((outbox_inv h).shared.2 r hr).attempts hn).2 ha⟩
  have hrow := (outbox_inv h).shared.2 r hr
  obtain ⟨c, hc⟩ := Option.isSome_iff_exists.mp (hrow.held hp)
  exact ⟨c, hrow.drawn c hc, hc, hrow.latest c hc⟩

/-- A worker is slow until another one claims its delivery. A second delivery fails and is tried again meanwhile. -/
def staleRun : List (Turn Call Choice Outside) :=
  hookSetup none ++ [plainInvocation none "event" "row", plainInvocation none "later" "other",
    .begin .deliver, .resume 0 (.claim "row" "first"), .begin .deliver, .resume 1 (.claim "other" "second"),
    .resume 1 (.provider (.unavailable "busy")), .resume 1 .go, .resume 1 .go, .outside (.tick 1100),
    .begin .deliver, .resume 2 (.claim "other" "third"), .resume 2 (.provider .delivered), .resume 2 .go,
    .outside (.tick 1300), .begin .deliver, .resume 3 (.claim "row" "last"), .resume 0 (.provider .delivered)]

/-- The mark of the slow worker changes no row, and the delivery that succeeded stays. -/
theorem deliveries_resolve_once_stale :
    (plainRun staleRun).map (fun r =>
        r.1.shared.db.outbox.map (fun row => (row.outboxId, row.status, row.claimId, row.attempts))) =
      some [("row", .inProgress, some "last", 0), ("other", .succeeded, none, 1)] ∧
    ∀ r ∈ plainRun staleRun,
      (∀ t out, (runs plainEnv true).step r.1 (.resume 0 .go) = some (t, out) → r.1.shared.db.outbox ⊆ t.shared.db.outbox) ∧
      (∀ fs t, (runs plainEnv true).Run r.1 fs t → ∀ row ∈ r.1.shared.db.outbox, .deleted row.outboxId ∉ log fs →
        row.status = .succeeded → row ∈ t.shared.db.outbox) ∧
      ∀ row ∈ r.1.shared.db.outbox, row.attempts ≤ maxDeliveryAttempts := by
  refine ⟨by decide +kernel, fun r hr => ?_⟩
  obtain ⟨hstep, hrun, hattempts⟩ := deliveries_resolve_once (plainRun_reaches hr)
  have hslow : ∀ r ∈ plainRun staleRun,
      (∃ c ∈ r.1.calls, c.1 = 0 ∧ c.2.mark = some ("row", "first")) ∧ latestClaim "row" (log r.2) = some "last" ∧
        ∀ row ∈ r.1.shared.db.outbox, .replayed row.outboxId ∉ life row.outboxId (log r.2) := by
    decide +kernel
  obtain ⟨⟨⟨_, p⟩, hp, rfl, hmark⟩, hlatest, hnot⟩ := hslow r hr
  refine ⟨fun t out hs row hrow => ?_, fun fs t hr row hrow hkept hdone => ?_, fun row hrow =>
    hattempts row hrow (hnot row hrow)⟩
  · by_contra hgone
    obtain ⟨-, -, hfirst⟩ := (hstep _ t out hs).1 0 .go p "row" "first" rfl hp hmark row hrow hgone
    exact absurd (hlatest.symm.trans hfirst) (by decide)
  · exact (hrun fs t hr row hrow hkept).1 (.inl hdone)

theorem active_rows_accounted_reclaimed :
    (plainRun staleRun).map (·.1.shared.issued) = some ["first", "second", "third", "last"] ∧
    ∀ r ∈ plainRun staleRun, ∀ row ∈ r.1.shared.db.outbox, row.status = .inProgress →
      ∃ c ∈ r.1.shared.issued, row.claimId = some c ∧ latestClaim row.outboxId (log r.2) = some c :=
  ⟨by decide +kernel, fun _ hr => (active_rows_accounted (plainRun_reaches hr)).1⟩

end runs

end Manifold.Push
