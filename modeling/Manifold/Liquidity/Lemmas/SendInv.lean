import Manifold.Liquidity.Lemmas.Sends

/-!
# The invariant of the sends
-/

namespace Manifold.Liquidity

open Lib

/-! ## Rows and notes -/

structure RowInv (es : List Note) (db : Db) : Prop where
  keyed : Table.Keyed (·.operationId) db.operations
  absent : ∀ o, db.operation o = none → auth o es = .initial
  pending : ∀ o r, db.operation o = some r → r.status = .pending → (auth o es).free
  stopped : ∀ o r, db.operation o = some r → r.status = .failed ∨ r.status = .cancelled → auth o es ≠ .fenced
  intents : ∀ r₁ ∈ db.operations, ∀ r₂ ∈ db.operations, ∀ k, r₁.withdrawalIntentId = some k →
    r₂.withdrawalIntentId = some k → r₁.operationId = r₂.operationId

def notes (caller : Caller) (out : List Event) : List Note := out.map (fun o => (caller, o))

theorem forall_notes {caller : Caller} {out : List Event} {P : Event → Prop} (h : ∀ ev ∈ out, P ev) :
    ∀ n ∈ notes caller out, P n.2 := by
  intro n hn
  obtain ⟨ev, hev, rfl⟩ := List.mem_map.mp hn
  exact h ev hev

theorem exists_notes {caller out ev} (h : ev ∈ out) :
    ∃ n ∈ notes caller out, n.2 = ev := ⟨(caller, ev), List.mem_map_of_mem h, rfl⟩

theorem Auth.free_ne_fenced {a : Auth} (h : a.free) : a ≠ .fenced := by
  rintro rfl; exact h

section step

variable {es : List Note} {w w' : World} {x : Outside} {out : List Event} {e : Ask} {r : Ans e}
  {caller : Caller} {o : OperationId}

theorem not_fenced (hk : Table.Keyed (·.operationId) w.db.operations)
    (hs : handler e w x = some (r, w', out)) (h : ∀ row, w'.db.operation o = some row → row.status ≠ .inDoubt) :
    ∀ ev ∈ out, ∀ it, ev ≠ .fenced o it := by
  rintro _ hev it rfl
  obtain ⟨⟨row, hrow, hst⟩, -⟩ := handler_emits hk hs _ hev
  exact h row hrow hst

theorem not_resolved (hk : Table.Keyed (·.operationId) w.db.operations)
    (hs : handler e w x = some (r, w', out))
    (h : ∀ row, w.db.operation o = some row → row.status ≠ .manualReviewRequired) :
    ∀ ev ∈ out, ∀ outcome, ev ≠ .resolved o outcome := by
  rintro _ hev outcome rfl
  obtain ⟨-, row, hrow, hst⟩ := handler_emits hk hs _ hev
  exact h row hrow hst

theorem RowInv.auth_same (hi : RowInv es w.db) (hs : handler e w x = some (r, w', out))
    (hf : (auth o es).free) (h : ∀ row, w.db.operation o = some row → row.status ≠ .manualReviewRequired)
    (h' : ∀ row, w'.db.operation o = some row → row.status ≠ .inDoubt) :
    auth o (es ++ notes caller out) = auth o es := by
  rw [auth_append]
  refine Auth.through_of_free hf fun n hn => ⟨?_, ?_⟩
  · exact forall_notes (not_fenced hi.keyed hs h') n hn
  · exact forall_notes (not_resolved hi.keyed hs h) n hn

theorem RowInv.absent_step (hi : RowInv es w.db) (hs : handler e w x = some (r, w', out))
    (ho : w'.db.operation o = none) : auth o (es ++ notes caller out) = .initial := by
  have hnone : w.db.operation o = none := by
    cases hop : w.db.operation o with
    | none => rfl
    | some row =>
      obtain ⟨row', hrow', -⟩ := operation_forth hi.keyed hs hop
      rw [ho] at hrow'
      cases hrow'
  have hinit := hi.absent o hnone
  rw [hi.auth_same hs (by rw [hinit]; trivial) (by simp [hnone]) (by simp [ho])]
  exact hinit

theorem RowInv.pending_step (hi : RowInv es w.db) (hs : handler e w x = some (r, w', out)) {row'}
    (ho : w'.db.operation o = some row') (hp : row'.status = .pending) :
    (auth o (es ++ notes caller out)).free := by
  have hdoubt : ∀ row, w'.db.operation o = some row → row.status ≠ .inDoubt := fun row hrow => by
    rw [ho] at hrow
    cases hrow
    simp [hp]
  have hfree : ∀ row, w.db.operation o = some row → row.status = .pending →
      (auth o (es ++ notes caller out)).free := fun row hrow hst => by
    rw [hi.auth_same hs (hi.pending o row hrow hst) (fun r hr => ?_) hdoubt]
    · exact hi.pending o row hrow hst
    · rw [hrow] at hr
      cases hr
      simp [hst]
  rcases operation_back hi.keyed hs ho with ⟨row, hrow, hc⟩ | ⟨hnone, -, -⟩
  · have hid := (Db.mem_of_operation hrow).2
    rcases hc.to_pending hp with hst | hout | ⟨hout, hall, hst⟩
    · exact hfree row hrow hst
    · rw [hout, hid, auth_append]
      simp [notes, Auth.through, Auth.next, Auth.free]
    rw [auth_append]
    refine Auth.through_retried (hi.stopped o row hrow (.inl hst)) (forall_notes hall) ?_
    rw [← hid]
    exact exists_notes hout
  · have hinit := hi.absent o hnone
    rw [hi.auth_same hs (by rw [hinit]; trivial) (by simp [hnone]) hdoubt, hinit]
    trivial

theorem RowInv.stopped_step (hi : RowInv es w.db) (hs : handler e w x = some (r, w', out))
    (hfail : ∀ o detail, e = .markOperationFailed o detail → auth o es ≠ .fenced) {row'}
    (ho : w'.db.operation o = some row') (hp : row'.status = .failed ∨ row'.status = .cancelled) :
    auth o (es ++ notes caller out) ≠ .fenced := by
  have hdoubt : ∀ row, w'.db.operation o = some row → row.status ≠ .inDoubt := fun row hrow hd => by
    rw [ho] at hrow
    cases hrow
    rw [hd] at hp
    simp at hp
  have hkeep : auth o es ≠ .fenced → auth o (es ++ notes caller out) ≠ .fenced := fun h => by
    rw [auth_append]
    exact Auth.through_ne_fenced h (forall_notes (not_fenced hi.keyed hs hdoubt))
  rcases operation_back hi.keyed hs ho with ⟨row, hrow, hc⟩ | ⟨hnone, -, -⟩
  · have hid := (Db.mem_of_operation hrow).2
    cases hc with
    | same h => exact hkeep (hi.stopped o row hrow (h ▸ hp))
    | stamped _ _ h => exact hkeep (hi.stopped o row hrow (by rw [h] at hp; exact hp))
    | failed detail he => exact hkeep (hfail o detail (by rw [he, hid]))
    | cancelled _ hst =>
      rcases hst with hst | hst
      · exact hkeep (Auth.free_ne_fenced (hi.pending o row hrow hst))
      · exact hkeep (hi.stopped o row hrow (.inl hst))
    | resolved outcome hout _ _ _ h' =>
      rw [h'] at hp
      cases outcome with
      | completed => simp [ManualReviewOutcome.status] at hp
      | safeToRetry => simp [ManualReviewOutcome.status] at hp
      | failed reason =>
        rw [hout, hid, auth_append]
        simp only [notes, Auth.through, List.map_cons, List.map_nil, List.foldl_cons, List.foldl_nil, Auth.next,
          true_and]
        split
        · simp
        · assumption
    | retried _ _ _ _ h' => rw [h'] at hp; simp at hp
    | evidence _ _ _ _ _ h' => rcases h' with h' | h' | h' <;> rw [h'] at hp <;> simp at hp
    | broadcast _ _ h' => rw [h'] at hp; simp at hp
    | inDoubt _ _ h' => rw [h'] at hp; simp at hp
    | fenced _ _ _ _ _ _ h' => rw [h'] at hp; simp at hp
    | escalated _ _ h' => rw [h'] at hp; simp at hp
  · exact hkeep (by rw [hi.absent o hnone]; simp)

theorem intents_step (hk : Table.Keyed (·.operationId) w.db.operations)
    (hi : ∀ r₁ ∈ w.db.operations, ∀ r₂ ∈ w.db.operations, ∀ k, r₁.withdrawalIntentId = some k →
      r₂.withdrawalIntentId = some k → r₁.operationId = r₂.operationId) (hs : handler e w x = some (r, w', out))
    (hplain : ∀ row, (∃ i, e = .ensureWalletOperation row i) ∨ e = .insertWalletOperation row →
      row.withdrawalIntentId = none) :
    ∀ r₁ ∈ w'.db.operations, ∀ r₂ ∈ w'.db.operations, ∀ k, r₁.withdrawalIntentId = some k →
      r₂.withdrawalIntentId = some k → r₁.operationId = r₂.operationId := by
  have hnew : ∀ row k, NewRow w.db e out row → row.withdrawalIntentId = some k →
      ∃ ev, out = [.operationCreated row, ev] ∧ ∀ r₀ ∈ w.db.operations, r₀.withdrawalIntentId ≠ some k := by
    intro row k hn hk
    cases hn with
    | funding i row₀ now he hrow =>
      rw [hrow, show row₀.withdrawalIntentId = none from hplain row₀ (.inl ⟨i, he⟩)] at hk
      cases hk
    | deposit row₀ now he hrow =>
      rw [hrow, show row₀.withdrawalIntentId = none from hplain row₀ (.inr he)] at hk
      cases hk
    | withdrawal config request feeRate spendable now he hrow hout _ hintent =>
      refine ⟨_, hout, fun r₀ hr₀ hk₀ => ?_⟩
      rw [hrow] at hk
      cases hk
      have := List.find?_eq_none.mp hintent r₀ hr₀
      simp [hk₀] at this
  intro r₁ h₁ r₂ h₂ k hk₁ hk₂
  have hops := handler_ops hk hs
  rcases hops.back h₁ with ⟨q₁, hq₁, hc₁⟩ | hn₁ <;> rcases hops.back h₂ with ⟨q₂, hq₂, hc₂⟩ | hn₂
  · rw [hc₁.kept.operationId, hc₂.kept.operationId]
    exact hi q₁ hq₁ q₂ hq₂ k (hc₁.kept.intent ▸ hk₁) (hc₂.kept.intent ▸ hk₂)
  · obtain ⟨_, -, hno⟩ := hnew r₂ k hn₂ hk₂
    exact absurd (hc₁.kept.intent ▸ hk₁) (hno q₁ hq₁)
  · obtain ⟨_, -, hno⟩ := hnew r₁ k hn₁ hk₁
    exact absurd (hc₂.kept.intent ▸ hk₂) (hno q₂ hq₂)
  obtain ⟨ev, hout, -⟩ := hnew r₁ k hn₁ hk₁
  obtain ⟨ev', hout', -⟩ := hnew r₂ k hn₂ hk₂
  rw [hout] at hout'
  cases hout'
  rfl

theorem RowInv.step (hi : RowInv es w.db) (hs : handler e w x = some (r, w', out))
    (hfail : ∀ o detail, e = .markOperationFailed o detail → auth o es ≠ .fenced)
    (hplain : ∀ row, (∃ i, e = .ensureWalletOperation row i) ∨ e = .insertWalletOperation row →
      row.withdrawalIntentId = none) :
    RowInv (es ++ notes caller out) w'.db where
  keyed := handler_keyed hi.keyed hs
  absent _ ho := hi.absent_step hs ho
  pending _ _ ho hp := hi.pending_step hs ho hp
  stopped _ _ ho hp := hi.stopped_step hs hfail ho hp
  intents := intents_step hi.keyed hi.intents hs hplain

end step

/-! ## Stages -/

structure Bound (db : Db) (l : Stage) : Prop where
  grant : ∀ g, l.grant = some g → l.worker.isSome = true ∧
    ∃ r, db.operation g.operationId = some r ∧ r.operationType = sentType l.worker
  attempt : ∀ o, l.attempt.operation = some o → ∃ r, db.operation o = some r ∧ r.operationType = sentType l.worker

/-- Where the stage holds no fence the operation is not in an attempt, and the fence it holds is the last
thing its caller did. -/
structure Settled (es : List Note) (caller : Caller) (l : Stage) : Prop where
  granted : ∀ o, l.grant = some ⟨o, true⟩ → auth o es ≠ .fenced
  unsent : ∀ o, l.attempt = .unsent o → auth o es ≠ .fenced
  fence : ∀ p, l.attempt = .fenced p → ∃ it, LastNote es caller (.fenced p.operationId it)

structure SendInv (es : List Note) (c : Crowd) : Prop where
  rows : RowInv es c.world.db
  bound : ∀ m ∈ c.members, Bound c.world.db m.2
  alone : ∀ m ∈ c.members, ∀ m' ∈ c.members, ∀ o, m.2.attempt.operation = some o →
    m'.2.attempt.operation = some o → m = m'
  settled : ∀ m ∈ c.members, Settled es m.1 m.2

section ask

variable {es : List Note} {c : Crowd} {caller : Caller} {l : Stage} {e : Ask} {x : Outside} {r : Ans e}
  {w : World} {out : List Event}

theorem SendInv.caller_eq (hw : c.WellFormed) (hi : SendInv es c) (hm : (caller, l) ∈ c.members) {g}
    (hg : l.grant = some g) {m} (hmem : m ∈ c.members)
    (h : ∃ row, c.world.db.operation g.operationId = some row ∧ row.operationType = sentType m.2.worker) :
    m.1 = caller := by
  obtain ⟨row, hop, htype⟩ := h
  obtain ⟨hworker, row', hop', htype'⟩ := (hi.bound _ hm).grant g hg
  have hrow : row' = row := Option.some.inj (hop'.symm.trans hop)
  have hkind : l.worker = m.2.worker := sentType_inj (htype'.symm.trans (hrow ▸ htype))
  -- the two workers are of one kind, so they are one
  obtain ⟨kind, hk⟩ := Option.isSome_iff_exists.mp hworker
  have h₁ : caller.worker = some kind := by rw [← hw.worker _ hm]; exact hk
  have h₂ : m.1.worker = some kind := by rw [← hw.worker _ hmem, ← hkind]; exact hk
  exact congrArg Prod.fst (hw.serial m hmem _ hm kind h₂ h₁)

theorem SendInv.not_held (hw : c.WellFormed) (hi : SendInv es c) (hm : (caller, l) ∈ c.members) {l'}
    (hmv : Moves c.world w out e l l') {o it} (hev : .fenced o it ∈ out) {m} (hmem : m ∈ c.members)
    (hne : m.1 ≠ caller) :
    ¬ ∃ row, c.world.db.operation o = some row ∧ row.operationType = sentType m.2.worker := by
  rintro ⟨row, hop, htype⟩
  rcases hmv.fences hev with ⟨-, hg⟩ | ⟨_, -, -, hnew, -⟩
  · exact hne (hi.caller_eq hw hm hg hmem ⟨row, hop, htype⟩)
  · rw [hnew] at hop
    cases hop

theorem Bound.mono {db db' l} (h : Bound db l)
    (hrows : ∀ o r, db.operation o = some r → ∃ r', db'.operation o = some r' ∧ r'.operationType = r.operationType) :
    Bound db' l where
  grant g hg := by
    obtain ⟨hw, r, hr, ht⟩ := h.grant g hg
    obtain ⟨r', hr', ht'⟩ := hrows _ r hr
    exact ⟨hw, r', hr', ht'.trans ht⟩
  attempt o ho := by
    obtain ⟨r, hr, ht⟩ := h.attempt o ho
    obtain ⟨r', hr', ht'⟩ := hrows _ r hr
    exact ⟨r', hr', ht'.trans ht⟩

theorem Bound.after {l'} (h : Bound w.db l) (hw : l'.worker = l.worker) (hmv : Moves c.world w out e l l') :
    Bound w.db l' where
  grant g hg := by
    rw [hw]
    rcases hmv.grants hg with ⟨hg, -⟩ | ⟨hnew, -⟩
    · exact h.grant g hg
    · exact hnew
  attempt o ho := by
    rw [hw]
    rcases hmv.attempts ho with ho | hg | ⟨hworker, -, hrow⟩
    · exact h.attempt o ho
    · exact (h.grant _ hg).2
    · rw [hworker]
      exact hrow

theorem SendInv.alone_after (hw : c.WellFormed) (hi : SendInv es c) (hm : (caller, l) ∈ c.members) {l'}
    (hmv : Moves c.world w out e l l') {o} (ho : l'.attempt.operation = some o) {m} (hmem : m ∈ c.members)
    (hne : m.1 ≠ caller) : m.2.attempt.operation ≠ some o := by
  intro hmo
  have hrow := (hi.bound m hmem).attempt o hmo
  rcases hmv.attempts ho with ho | hg | ⟨-, hnew, -⟩
  · exact hne (congrArg Prod.fst (hi.alone m hmem _ hm o hmo ho))
  · exact hne (hi.caller_eq hw hm hg hmem hrow)
  · obtain ⟨_, hop, -⟩ := hrow
    rw [hnew] at hop
    cases hop

theorem Stage.allows.left_of_fenced {p} (ha : l.allows e) (hl : l.attempt = .fenced p) :
    (l.after e r).attempt = .left p := by
  simp only [Stage.allows, hl] at ha
  subst ha
  rfl

theorem auth_ne_fenced {o} (h : auth o es ≠ .fenced) (hno : ∀ it, .fenced o it ∉ out) :
    auth o (es ++ notes caller out) ≠ .fenced := by
  have hall : ∀ ev ∈ out, ∀ it, ev ≠ .fenced o it := fun ev hev it he => hno it (he ▸ hev)
  rw [auth_append]
  exact Auth.through_ne_fenced h (forall_notes hall)

theorem SendInv.settled_other (hw : c.WellFormed) (hi : SendInv es c) (hm : (caller, l) ∈ c.members) {l'}
    (hmv : Moves c.world w out e l l') {m} (hmem : m ∈ c.members) (hne : m.1 ≠ caller) :
    Settled (es ++ notes caller out) m.1 m.2 where
  granted o ho := auth_ne_fenced ((hi.settled m hmem).granted o ho) fun _ hev =>
    hi.not_held hw hm hmv hev hmem hne ((hi.bound m hmem).grant _ ho).2
  unsent o ho := auth_ne_fenced ((hi.settled m hmem).unsent o ho) fun _ hev =>
    hi.not_held hw hm hmv hev hmem hne ((hi.bound m hmem).attempt o (by rw [ho]; rfl))
  fence p hp := by
    obtain ⟨it, hlast⟩ := (hi.settled m hmem).fence p hp
    refine ⟨it, hlast.append fun n hn => ?_⟩
    obtain ⟨ev, -, rfl⟩ := List.mem_map.mp hn
    exact hne.symm

theorem SendInv.settled_caller (hi : SendInv es c) (hm : (caller, l) ∈ c.members) (ha : l.allows e)
    (hmv : Moves c.world w out e l (l.after e r)) : Settled (es ++ notes caller out) caller (l.after e r) where
  granted o ho := by
    rcases hmv.grants ho with ⟨hg, hworker | hno⟩ | ⟨-, hp, hno⟩
    · obtain ⟨hsome, -⟩ := (hi.bound _ hm).grant _ hg
      simp [hworker] at hsome
    · exact auth_ne_fenced ((hi.settled _ hm).granted o hg) (hno o)
    -- the row was seen pending, or it was not there
    refine auth_ne_fenced ?_ (hno o)
    cases hop : c.world.db.operation o with
    | none => rw [hi.rows.absent o hop]; simp
    | some row => exact Auth.free_ne_fenced (hi.rows.pending o row hop (hp rfl row hop))
  unsent o ho := by
    rcases hmv.unsent ho with ⟨hl | hg, hno⟩ | hout
    · exact auth_ne_fenced ((hi.settled _ hm).unsent o hl) (hno o)
    · exact auth_ne_fenced ((hi.settled _ hm).granted o hg) (hno o)
    rw [hout, auth_append]
    simp only [notes, Auth.through, List.map_cons, List.map_nil, List.foldl_cons, List.foldl_nil, Auth.next, true_and]
    split
    · simp
    · assumption
  fence p hp := by
    rcases hmv.fence hp with hsame | ⟨pre, it, hout⟩
    · -- the fence that the stage had is gone after the question
      cases (ha.left_of_fenced (hsame ▸ hp)).symm.trans hp
    · exact ⟨it, es ++ notes caller pre, [], by simp [hout, notes], by simp⟩

theorem Stage.allows.plain (ha : l.allows e) {row}
    (h : (∃ i, e = .ensureWalletOperation row i) ∨ e = .insertWalletOperation row) :
    row.withdrawalIntentId = none := by
  rcases h with ⟨i, rfl⟩ | rfl
  · obtain ⟨kind, s, -, -, hrow⟩ := ha.mayAsk (by simp) (by simp)
    exact hrow.intent
  · exact (ha.mayAsk (by simp) (by simp)).2.intent

theorem SendInv.ask (hw : c.WellFormed) (hi : SendInv es c) (hm : (caller, l) ∈ c.members) (ha : l.allows e)
    (hs : handler e c.world x = some (r, w, out)) :
    SendInv (es ++ notes caller out) { c with world := w, members := c.move caller (l.after e r) } := by
  have hmv := moves hi.rows.keyed ha hs
  have hrows : ∀ o row, c.world.db.operation o = some row →
      ∃ row', w.db.operation o = some row' ∧ row'.operationType = row.operationType := fun o row hop => by
    obtain ⟨row', hrow', hc⟩ := operation_forth hi.rows.keyed hs hop
    exact ⟨row', hrow', hc.kept.operationType⟩
  refine ⟨hi.rows.step hs (fun o detail he => ?_) fun row => ha.plain, ?_, ?_, ?_⟩
  · subst he
    exact (hi.settled _ hm).unsent o (ha.mayAsk (by simp) (by simp))
  · intro m hmem
    rcases Crowd.mem_move hmem with ⟨rfl, -⟩ | ⟨hmem, -⟩
    · exact ((hi.bound _ hm).mono hrows).after (l.after_worker e r) hmv
    · exact (hi.bound m hmem).mono hrows
  · intro m hmem m' hmem' o ho ho'
    rcases Crowd.mem_move hmem with ⟨rfl, -⟩ | ⟨hmem, hne⟩ <;>
      rcases Crowd.mem_move hmem' with ⟨rfl, -⟩ | ⟨hmem', hne'⟩
    · rfl
    · exact absurd ho' (hi.alone_after hw hm hmv ho hmem' hne')
    · exact absurd ho (hi.alone_after hw hm hmv ho' hmem hne)
    · exact hi.alone m hmem m' hmem' o ho ho'
  intro m hmem
  rcases Crowd.mem_move hmem with ⟨rfl, -⟩ | ⟨hmem, hne⟩
  · exact hi.settled_caller hm ha hmv
  · exact hi.settled_other hw hm hmv hmem hne

end ask

/-! ## Runs -/

section runs

variable {G : CrowdGuard} {es : List Note} {c c' : Crowd} {out : List Note}

theorem SendInv.of_same (hi : SendInv es c) (hops : c'.world.db.operations = c.world.db.operations)
    (hmem : ∀ m ∈ c'.members, m ∈ c.members ∨ m.2 = { worker := m.1.worker }) : SendInv es c' := by
  have hop : ∀ o, c'.world.db.operation o = c.world.db.operation o := fun o => by
    simp only [Db.operation, hops]
  refine ⟨⟨hops ▸ hi.rows.keyed, fun o => hop o ▸ hi.rows.absent o, fun o => hop o ▸ hi.rows.pending o,
    fun o => hop o ▸ hi.rows.stopped o, hops ▸ hi.rows.intents⟩, fun m hm => ?_, fun m hm m' hm' o ho ho' => ?_,
    fun m hm => ?_⟩
  · rcases hmem m hm with hm | hm
    · exact (hi.bound m hm).mono fun o row h => ⟨row, hop o ▸ h, rfl⟩
    · rw [hm]; exact ⟨by simp, by simp [Attempt.operation]⟩
  · rcases hmem m hm with hm | hm
    · rcases hmem m' hm' with hm' | hm'
      · exact hi.alone m hm m' hm' o ho ho'
      · rw [hm'] at ho'; cases ho'
    · rw [hm] at ho; cases ho
  · rcases hmem m hm with hm | hm
    · exact hi.settled m hm
    · rw [hm]; exact ⟨by simp, by simp, by simp⟩

theorem SendInv.step (hw : c.WellFormed) (hi : SendInv es c) (hs : CrowdStep G c out c') : SendInv (es ++ out) c' := by
  cases hs with
  | ask caller l e x r w out hm ha hr hg hh => exact hi.ask hw hm ha hh
  | join worker h =>
    rw [List.append_nil]
    refine hi.of_same rfl fun m hm => ?_
    rcases Lib.mem_snoc.mp hm with hm | rfl
    · exact .inl hm
    · exact .inr rfl
  | leave caller l hm =>
    rw [List.append_nil]
    refine hi.of_same ?_ fun m hm => .inl (List.mem_of_mem_filter hm)
    rcases caller with ⟨_, _ | (_ | _)⟩ <;> rfl
  | crash =>
    rw [List.append_nil]
    exact hi.of_same rfl (by simp)
  | tide w h =>
    rw [List.append_nil]
    refine hi.of_same ?_ fun m hm => .inl hm
    cases h <;> rfl

theorem SendInv.init : SendInv [] {} where
  rows := ⟨List.nodup_nil, fun _ _ => rfl, by simp [Db.operation, Table.lookup], by simp [Db.operation, Table.lookup],
    by simp⟩
  bound := by simp
  alone := by simp
  settled := by simp

theorem CrowdReaches.sendInv (h : CrowdReaches G es c) : SendInv es c :=
  h.induct SendInv.init fun _ _ _ _ hr hi hs => hi.step hr.wellFormed hs

/-! ## Notes of a run -/

def Sent (pre : List Note) (n : Note) : Prop :=
  ∀ p, n.2 = .submitted p → ∃ it, LastNote pre n.1 (.fenced p.operationId it)

def Fenced (pre : List Note) (n : Note) : Prop := ∀ o it, n.2 = .fenced o it → (auth o pre).free

theorem CrowdReaches.sent (h : CrowdReaches G es c) : Trace.Each Sent es := by
  refine h.induct (I := fun es _ => Trace.Each Sent es) Trace.Each.nil fun es c out c' hr hi hs => ?_
  cases hs with
  | ask caller l e x r w out hm ha _ _ hh =>
    refine hi.append fun pre n post he p hp => ?_
    obtain ⟨ev, hev, rfl⟩ := List.mem_map.mp (by rw [he]; simp : n ∈ out.map (fun o => (caller, o)))
    cases (hp : ev = _)
    have hask : e = .submitPrepared p := handler_emits hr.sendInv.rows.keyed hh _ hev
    subst hask
    cases hh
    -- the submission is the only event of its step
    cases pre with
    | nil =>
      rw [List.append_nil]
      exact (hr.sendInv.settled _ hm).fence p ha.submitPrepared
    | cons n pre => simp at he
  | _ => rw [List.append_nil]; exact hi

theorem CrowdReaches.fenced (h : CrowdReaches G es c) : Trace.Each Fenced es := by
  refine h.induct (I := fun es _ => Trace.Each Fenced es) Trace.Each.nil fun es c out c' hr hi hs => ?_
  cases hs with
  | ask caller l e x r w out hm ha _ _ hh =>
    refine hi.append fun pre n post he o it hn => ?_
    have hrows := hr.sendInv.rows
    obtain ⟨ev, hev, rfl⟩ := List.mem_map.mp (by rw [he]; simp : n ∈ out.map (fun o => (caller, o)))
    cases (hn : ev = _)
    -- what the step emits before the fence does not touch the attempts
    have hpre : ∀ m ∈ pre, (∀ it, m.2 ≠ .fenced o it) ∧ ∀ outcome, m.2 ≠ .resolved o outcome := by
      rcases (moves hrows.keyed ha hh).fences hev with ⟨hout, -⟩ | ⟨row, hout, -⟩ <;> rw [hout] at he
      · cases pre with
        | nil => simp
        | cons m pre => simp at he
      · rcases pre with _ | ⟨m, _ | ⟨m', pre⟩⟩
        · simp
        · obtain ⟨rfl, -⟩ := List.cons.inj he
          simp
        · simp at he
    have hfree : (auth o es).free := by
      rcases (handler_emits hrows.keyed hh _ hev).2 with ⟨_, _, row, -, -, hop, -, hst, -⟩ | ⟨_, _, _, _, -, -, hop, -⟩
      · exact hrows.pending o row hop hst
      · rw [hrows.absent o hop]; trivial
    rw [auth_append, Auth.through_of_free hfree hpre]
    exact hfree
  | _ => rw [List.append_nil]; exact hi

theorem CrowdReaches.submitted_row (h : CrowdReaches G es c) {caller p} (hp : (caller, .submitted p) ∈ es) :
    ∃ r, c.world.db.operation p.operationId = some r := by
  refine h.induct (I := fun es c => ∀ caller p, (caller, .submitted p) ∈ es →
    ∃ r, c.world.db.operation p.operationId = some r) (by simp) ?_ caller p hp
  intro es c out c' hr hi hs caller p hp
  cases hs with
  | ask caller' l e x r w out hm ha _ _ hh =>
    have hold : (∃ row, c.world.db.operation p.operationId = some row) →
        ∃ row, w.db.operation p.operationId = some row := fun ⟨row, hrow⟩ => by
      obtain ⟨row', hrow', -⟩ := operation_forth hr.sendInv.rows.keyed hh hrow
      exact ⟨row', hrow'⟩
    rcases List.mem_append.mp hp with hp | hp
    · exact hold (hi caller p hp)
    obtain ⟨ev, hev, he⟩ := List.mem_map.mp hp
    cases he
    have hask : e = .submitPrepared p := handler_emits hr.sendInv.rows.keyed hh _ hev
    subst hask
    obtain ⟨row, hrow, -⟩ := (hr.sendInv.bound _ hm).attempt p.operationId (by rw [ha.submitPrepared]; rfl)
    exact hold ⟨row, hrow⟩
  | join | crash => rw [List.append_nil] at hp; exact hi caller p hp
  | leave caller' =>
    rw [List.append_nil] at hp
    rcases caller' with ⟨_, _ | (_ | _)⟩ <;> exact hi caller p hp
  | tide w h => rw [List.append_nil] at hp; cases h <;> exact hi caller p hp

end runs

end Manifold.Liquidity
